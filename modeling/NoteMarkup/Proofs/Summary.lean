import Mathlib.Data.List.SplitBy
import NoteMarkup.Proofs.Text.Words
import NoteMarkup.Proofs.Tree.Descendants
import NoteMarkup.Summary

/-!
# Words of summaries

A summary shows the words of a document with single spaces between them, and no word goes across
the start or the end of an element that stands apart from the text around it.

- `exists_full_summary` says what a summary is at every length;
- `CutAround` says what stands in front of an element and behind it, at any depth;
- `isSummarizedBy_pieces` puts a summary together from those of pieces of the document.
-/

namespace NoteMarkup

theorem Element.summary_of_le {root : Element} {limit : Nat} (fits : root.summaryText.length ≤ limit) :
    root.summary limit = root.summaryText := by
  rw [Element.summary, if_pos fits]

theorem Element.summary_of_lt {root : Element} {limit : Nat} (cut : limit < root.summaryText.length) :
    root.summary limit = String.ofList (root.summaryText.toList.take limit) ++ "..." := by
  rw [Element.summary, if_neg (Nat.not_le_of_lt cut)]

theorem Element.plainText_eq (e : Element) : e.plainText = plainTextOf e.children := by
  cases e
  rw [Element.plainText]

theorem Node.plainText_element (e : Element) :
    (Node.element e).plainText =
      if e.isSeparating then " " ++ plainTextOf e.children ++ " " else plainTextOf e.children := by
  rw [Node.plainText, e.plainText_eq]

theorem Element.words_summaryText (root : Element) :
    Text.words root.summaryText = Text.words root.plainText := by
  rw [Element.summaryText, Text.words_intercalate fun _ => Text.isWord_of_mem_words]

mutual

theorem Element.filter_plainText :
    ∀ e : Element, e.plainText.toList.filter (!Text.isBlank ·) =
      e.textContent.toList.filter (!Text.isBlank ·)
  | ⟨_, _, children⟩ => by
    rw [Element.plainText, Element.textContent, filter_plainTextOf children]

/-- The plain text has the character data with more blanks in it. -/
theorem filter_plainTextOf :
    ∀ nodes : List Node, (plainTextOf nodes).toList.filter (!Text.isBlank ·) =
      (textContentOf nodes).toList.filter (!Text.isBlank ·)
  | [] => rfl
  | node :: nodes => by
    rw [plainTextOf, textContentOf, String.toList_append, String.toList_append,
      List.filter_append, List.filter_append, Node.filter_plainText node,
      filter_plainTextOf nodes]

theorem Node.filter_plainText :
    ∀ node : Node, node.plainText.toList.filter (!Text.isBlank ·) =
      node.textContent.toList.filter (!Text.isBlank ·)
  | .text _ => rfl
  | .element e => by
    have space : " ".toList.filter (!Text.isBlank ·) = [] := by decide
    rw [Node.plainText, Node.textContent]
    split
    · rw [String.toList_append, String.toList_append, List.filter_append, List.filter_append,
        space, List.nil_append, List.append_nil, Element.filter_plainText e]
    · exact Element.filter_plainText e

end

/-- There is one text that all summaries of a document are cut from.  It has the characters of the
    document apart from blanks, and single spaces between words are its only blanks. -/
theorem exists_full_summary (root : Element) :
    ∃ full : String,
      full.toList.filter (!Text.isBlank ·) = root.textContent.toList.filter (!Text.isBlank ·) ∧
      Text.IsCollapsed full.toList ∧
      (∀ limit, root.summary limit =
        if full.length ≤ limit then full else String.ofList (full.toList.take limit) ++ "...") ∧
      ∀ short long, short ≤ long → full.toList.take short <+: full.toList.take long := by
  have wf : ∀ word ∈ Text.wordsOf root.plainText.toList, Text.IsWord word :=
    fun _ => Text.isWord_of_mem_wordsOf
  refine ⟨root.summaryText, ?_, ?_, fun limit => rfl, fun short long => List.take_prefix_take_left⟩
  · rw [Element.summaryText, Text.toList_intercalate_words, Text.filter_intercalate wf,
      Text.flatten_wordsOf, Element.filter_plainText]
  · rw [Element.summaryText, Text.toList_intercalate_words]
    exact Text.isCollapsed_intercalate wf

/-! ## Elements that stand apart -/

def Element.StandsApart (e : Element) : Prop :=
  e.tag ∈ ["div", "p", "li", "br", "tr", "td", "th", "pre", "blockquote"] ∨
    e.tag ∈ ["h1", "h2", "h3", "h4", "h5", "h6"]

instance (e : Element) : Decidable e.StandsApart :=
  inferInstanceAs (Decidable (_ ∨ _))

theorem Element.isSeparating_iff {e : Element} : e.isSeparating = true ↔ e.StandsApart := by
  rw [Element.isSeparating, List.contains_iff_mem, Element.StandsApart, ← List.mem_append]
  exact (by decide : separatingTags.Perm _).mem_iff

def Node.standsApart : Node → Bool
  | .element e => e.StandsApart
  | .text _ => false

theorem Node.plainText_of_standsApart {node : Node} (apart : node.standsApart = true) :
    ∃ inner, node.plainText = " " ++ inner ++ " " := by
  cases node with
  | text s => cases apart
  | element e =>
    have separating : e.isSeparating = true := Element.isSeparating_iff.mpr (of_decide_eq_true apart)
    exact ⟨e.plainText, if_pos separating⟩

theorem plainTextOf_append (nodes more : List Node) :
    plainTextOf (nodes ++ more) = plainTextOf nodes ++ plainTextOf more := by
  induction nodes with
  | nil => rw [List.nil_append, plainTextOf, String.empty_append]
  | cons node nodes ih => rw [List.cons_append, plainTextOf, plainTextOf, ih, String.append_assoc]

@[simp]
theorem plainTextOf_singleton (node : Node) : plainTextOf [node] = node.plainText := by
  rw [plainTextOf, plainTextOf, String.append_empty]

/-- No word goes from a list of nodes to the next one if a node that stands apart is on either side
    of the place where they meet. -/
theorem words_plainTextOf_append {nodes more : List Node}
    (meets : (∃ last ∈ nodes.getLast?, last.standsApart = true) ∨
      ∃ first ∈ more.head?, first.standsApart = true) :
    Text.words (plainTextOf (nodes ++ more)) =
      Text.words (plainTextOf nodes) ++ Text.words (plainTextOf more) := by
  rw [plainTextOf_append]
  obtain ⟨last, ends, apart⟩ | ⟨first, starts, apart⟩ := meets
  · obtain ⟨front, rfl⟩ := List.getLast?_eq_some_iff.mp ends
    obtain ⟨inner, spaced⟩ := last.plainText_of_standsApart apart
    simp only [plainTextOf_append, plainTextOf_singleton, spaced, String.append_assoc,
      Text.words_append_space, Text.words_append_single_space, List.append_assoc]
  · obtain ⟨back, rfl⟩ := List.head?_eq_some_iff.mp starts
    obtain ⟨inner, spaced⟩ := first.plainText_of_standsApart apart
    simp only [plainTextOf, spaced, String.append_assoc, Text.words_append_space,
      Text.words_space_append]

/-- A piece of a document as a document: an element that stands apart is one itself, other nodes
    are put into one. -/
def pieceRoot : List Node → Element
  | [.element e] => if e.StandsApart then e else ⟨rootTag, [], [.element e]⟩
  | nodes => ⟨rootTag, [], nodes⟩

/-- The children of a document cut at those that stand apart, which are pieces themselves. -/
def Element.pieces (root : Element) : List Element :=
  (root.children.splitBy fun left right => !left.standsApart && !right.standsApart).map pieceRoot

theorem words_plainText_pieceRoot (nodes : List Node) :
    Text.words (pieceRoot nodes).plainText = Text.words (plainTextOf nodes) := by
  unfold pieceRoot
  split
  · rename_i e
    rw [plainTextOf_singleton]
    by_cases apart : e.StandsApart
    · rw [if_pos apart, Node.plainText, if_pos (Element.isSeparating_iff.mpr apart),
        Text.words_append_single_space, Text.words_space_append]
    · rw [if_neg apart, Element.plainText, plainTextOf_singleton]
  · rw [Element.plainText]

/-- Where lists of nodes meet at nodes that stand apart, each has its own words. -/
theorem words_plainTextOf_flatten : ∀ {groups : List (List Node)},
    groups.IsChain (fun group next => ∃ (own : group ≠ []) (others : next ≠ []),
      (!(group.getLast own).standsApart && !(next.head others).standsApart) = false) →
    Text.words (plainTextOf groups.flatten) =
      (groups.map fun group => Text.words (plainTextOf group)).flatten
  | [], _ => by rw [List.flatten_nil, plainTextOf, Text.words_empty, List.map_nil, List.flatten_nil]
  | [group], _ => by simp
  | group :: next :: groups, chain => by
    obtain ⟨⟨own, others, apart⟩, behind⟩ := List.isChain_cons_cons.mp chain
    have meets : (∃ last ∈ group.getLast?, last.standsApart = true) ∨
        ∃ first ∈ (next :: groups).flatten.head?, first.standsApart = true := by
      rw [Bool.and_eq_false_iff, Bool.not_eq_false', Bool.not_eq_false'] at apart
      obtain last | first := apart
      · exact .inl ⟨_, List.getLast?_eq_some_getLast own, last⟩
      · refine .inr ⟨_, ?_, first⟩
        rw [List.flatten_cons, List.head?_append, List.head?_eq_some_head others]
        rfl
    rw [List.flatten_cons, words_plainTextOf_append meets, words_plainTextOf_flatten behind]
    simp only [List.map_cons, List.flatten_cons]

theorem words_plainText_pieces (root : Element) :
    Text.words root.plainText = (root.pieces.map fun piece => Text.words piece.plainText).flatten := by
  obtain ⟨tag, attributes, children⟩ := root
  have chain := List.isChain_getLast_head_splitBy
    (fun left right => !Node.standsApart left && !Node.standsApart right) children
  have cut := words_plainTextOf_flatten chain
  rw [List.flatten_splitBy] at cut
  rw [Element.plainText, cut, Element.pieces, List.map_map]
  simp only [Function.comp_def, words_plainText_pieceRoot]

/-! ## Summaries put together -/

/-- The summary of a document is put together from those of several others. -/
structure Element.IsSummarizedBy (root : Element) (parts : List Element) : Prop where
  /-- A whole summary is long enough for the whole summary of each of them. -/
  full : ∀ limit, root.summaryText.length ≤ limit → ∀ part ∈ parts,
    part.summary limit = part.summaryText
  /-- It is made of theirs, with single spaces between those that are not empty. -/
  joined : ∀ limit, root.summaryText.length ≤ limit → root.summary limit =
    " ".intercalate ((parts.map (Element.summary limit)).filter (!·.isEmpty))
  /-- Every word of it is one of theirs. -/
  words : ∀ limit, root.summaryText.length ≤ limit → Text.words (root.summary limit) =
    (parts.map fun part => Text.words (part.summary limit)).flatten
  /-- Where a summary is cut off, every word is in front of one of theirs. -/
  cutOff : ∀ limit, limit < root.summaryText.length → ∃ kept, root.summary limit = kept ++ "..." ∧
    ∀ word ∈ Text.words kept, ∃ part ∈ parts, ∃ whole ∈ Text.words part.summaryText,
      word.toList <+: whole.toList

section

variable {root : Element} {parts : List Element}
  (same : Text.words root.plainText = (parts.map fun part => Text.words part.plainText).flatten)

include same

theorem Element.summaryText_eq_intercalate :
    root.summaryText = " ".intercalate ((parts.map Element.summaryText).filter (!·.isEmpty)) := by
  rw [Element.summaryText, same, Text.intercalate_flatten, List.map_map]
  · rfl
  · intro words member word h
    obtain ⟨part, -, rfl⟩ := List.mem_map.mp member
    exact Text.isWord_of_mem_words h

theorem Element.length_summaryText_le : ∀ part ∈ parts,
    part.summaryText.length ≤ root.summaryText.length := by
  intro part member
  by_cases empty : part.summaryText.isEmpty = true
  · rw [String.isEmpty_iff.mp empty]
    exact Nat.zero_le _
  · rw [Element.summaryText_eq_intercalate same]
    apply Text.length_le_length_intercalate
    rw [List.mem_filter]
    exact ⟨List.mem_map_of_mem member, by simpa using empty⟩

/-- It is enough to know the words. -/
theorem Element.isSummarizedBy_of_words : root.IsSummarizedBy parts := by
  have full : ∀ limit, root.summaryText.length ≤ limit → ∀ part ∈ parts,
      part.summary limit = part.summaryText := fun limit fits part member =>
    Element.summary_of_le ((Element.length_summaryText_le same part member).trans fits)
  refine ⟨full, ?_, ?_, ?_⟩
  · intro limit fits
    rw [Element.summary_of_le fits, List.map_congr_left (full limit fits)]
    exact Element.summaryText_eq_intercalate same
  · intro limit fits
    rw [Element.summary_of_le fits, root.words_summaryText, same]
    apply congrArg List.flatten
    apply List.map_congr_left
    intro part member
    rw [full limit fits part member, part.words_summaryText]
  · -- what is kept is the front of the whole summary, so the last word may be cut
    intro limit cut
    refine ⟨_, Element.summary_of_lt cut, fun word h => ?_⟩
    obtain ⟨whole, inside, front⟩ := Text.exists_prefix_of_mem_words_take h
    rw [root.words_summaryText, same] at inside
    obtain ⟨words, listed, inside⟩ := List.mem_flatten.mp inside
    obtain ⟨part, member, rfl⟩ := List.mem_map.mp listed
    exact ⟨part, member, whole, part.words_summaryText ▸ inside, front⟩

end

/-! ## Documents cut at an element -/

/-- An element stands somewhere in a list of nodes, with `before` in front of its start and `after`
    behind its end.  The elements that it stands in are cut in two. -/
inductive CutAround (e : Element) : List Node → List Node → List Node → Prop where
  | here (nodes : List Node) : CutAround e (.element e :: nodes) [] nodes
  | inside (outer : Element) (nodes : List Node) {before after : List Node}
      (inner : CutAround e outer.children before after) :
      CutAround e (.element outer :: nodes) [.element { outer with children := before }]
        (.element { outer with children := after } :: nodes)
  | behind (node : Node) {nodes before after : List Node} (cut : CutAround e nodes before after) :
      CutAround e (node :: nodes) (node :: before) after

mutual

theorem Element.exists_cutAround {e : Element} :
    ∀ {outer : Element}, e ∈ outer.descendants →
      ∃ before after, CutAround e outer.children before after
  | ⟨_, _, children⟩, h => by
    rw [Element.descendants] at h
    exact exists_cutAround h

/-- There is a place to cut for every element below, at any depth. -/
theorem exists_cutAround {e : Element} :
    ∀ {nodes : List Node}, e ∈ descendantsOf nodes → ∃ before after, CutAround e nodes before after
  | [], h => by cases h
  | node :: nodes, h => by
    rw [descendantsOf] at h
    obtain h | h := List.mem_append.mp h
    · exact Node.exists_cutAround h nodes
    · obtain ⟨before, after, cut⟩ := exists_cutAround h
      exact ⟨node :: before, after, cut.behind node⟩

theorem Node.exists_cutAround {e : Element} :
    ∀ {node : Node}, e ∈ node.elements → ∀ nodes : List Node,
      ∃ before after, CutAround e (node :: nodes) before after
  | .text _, h, _ => by cases h
  | .element outer, h, nodes => by
    rw [Node.elements] at h
    obtain rfl | h := List.mem_cons.mp h
    · exact ⟨[], nodes, .here nodes⟩
    · obtain ⟨before, after, inner⟩ := Element.exists_cutAround h
      exact ⟨_, _, .inside outer nodes inner⟩

end

namespace CutAround

variable {e : Element} {nodes before after : List Node}

/-- The character data of the three parts is that of the whole. -/
theorem textContentOf_eq (cut : CutAround e nodes before after) :
    textContentOf nodes = textContentOf before ++ e.textContent ++ textContentOf after := by
  induction cut with
  | here nodes => rw [textContentOf, textContentOf, Node.textContent, String.empty_append]
  | inside outer nodes inner ih =>
    simp only [textContentOf, Node.textContent, Element.textContent_eq, ih, String.append_assoc,
      String.empty_append]
  | behind node cut ih => rw [textContentOf, textContentOf, ih, String.append_assoc,
      String.append_assoc, String.append_assoc]

/-- No word goes across the start or the end of an element that stands apart, whatever text stands
    around the nodes. -/
theorem words_plainTextOf_between (cut : CutAround e nodes before after) (apart : e.StandsApart) :
    ∀ left right : String, Text.words (left ++ plainTextOf nodes ++ right) =
      Text.words (left ++ plainTextOf before) ++ Text.words e.plainText ++
        Text.words (plainTextOf after ++ right) := by
  induction cut with
  | here nodes =>
    intro left right
    rw [plainTextOf, plainTextOf, Node.plainText, if_pos (Element.isSeparating_iff.mpr apart)]
    simp only [String.append_assoc, Text.words_append_space, String.append_empty, List.append_assoc]
  | inside outer nodes inner ih =>
    -- the text around the children goes on with the spaces of the element that they stand in
    intro left right
    have text : ∀ children, (Node.element { outer with children }).plainText =
        if outer.isSeparating then " " ++ plainTextOf children ++ " " else plainTextOf children :=
      fun children => Node.plainText_element { outer with children }
    simp only [plainTextOf, text, Node.plainText_element outer, String.append_empty]
    by_cases spaced : outer.isSeparating = true
    · -- the spaces around an element that is cut stand at the ends of the parts as well
      have between := ih (left ++ " ") (" " ++ plainTextOf nodes ++ right)
      simp only [if_pos spaced, String.append_assoc, Text.words_append_space,
        Text.words_append_single_space, Text.words_space_append] at between ⊢
      exact between
    · have inline := ih left (plainTextOf nodes ++ right)
      simp only [if_neg spaced, String.append_assoc] at inline ⊢
      exact inline
  | behind node cut ih =>
    intro left right
    have moved := ih (left ++ node.plainText) right
    simpa only [plainTextOf, String.append_assoc] using moved

theorem words_plainTextOf (cut : CutAround e nodes before after) (apart : e.StandsApart) :
    Text.words (plainTextOf nodes) = Text.words (plainTextOf before) ++ Text.words e.plainText ++
      Text.words (plainTextOf after) := by
  have alone := cut.words_plainTextOf_between apart "" ""
  simpa only [String.empty_append, String.append_empty] using alone

end CutAround

/-- The summary of a document is put together from those of its pieces.  An element that
    stands apart, at any depth below it, cuts the document in three, with all of its character data,
    and the summary is put together from those of what stands in front, of the element and of what
    stands behind. -/
theorem isSummarizedBy_pieces (root : Element) :
    root.IsSummarizedBy root.pieces ∧
    (∀ e ∈ root.descendants, ∃ before after, CutAround e root.children before after) ∧
    ∀ e before after, CutAround e root.children before after → e.StandsApart →
      root.textContent = textContentOf before ++ e.textContent ++ textContentOf after ∧
      root.IsSummarizedBy [⟨rootTag, [], before⟩, e, ⟨rootTag, [], after⟩] := by
  refine ⟨Element.isSummarizedBy_of_words (words_plainText_pieces root),
    fun e h => Element.exists_cutAround h, ?_⟩
  intro e before after cut apart
  refine ⟨by rw [root.textContent_eq, cut.textContentOf_eq], ?_⟩
  apply Element.isSummarizedBy_of_words
  rw [root.plainText_eq, cut.words_plainTextOf apart]
  simp [Element.plainText_eq]

def brokenLine : Element :=
  ⟨rootTag, [],
    [.text "a", .element ⟨"span", [], [.text "b", .element ⟨"br", [], []⟩, .text "c"]⟩,
      .element ⟨"p", [], [.text " d\n"]⟩, .text "e"]⟩

theorem isSummarizedBy_pieces_brokenLine :
    CutAround ⟨"br", [], []⟩ brokenLine.children
      [.text "a", .element ⟨"span", [], [.text "b"]⟩]
      [.element ⟨"span", [], [.text "c"]⟩, .element ⟨"p", [], [.text " d\n"]⟩, .text "e"] ∧
    Element.StandsApart ⟨"br", [], []⟩ ∧
    brokenLine.IsSummarizedBy
      [⟨rootTag, [], [.text "a", .element ⟨"span", [], [.text "b"]⟩]⟩, ⟨"br", [], []⟩,
        ⟨rootTag, [], [.element ⟨"span", [], [.text "c"]⟩, .element ⟨"p", [], [.text " d\n"]⟩,
          .text "e"]⟩] ∧
    brokenLine.summary 100 = "ab c d e" := by
  have cut : CutAround ⟨"br", [], []⟩ brokenLine.children
      [.text "a", .element ⟨"span", [], [.text "b"]⟩]
      [.element ⟨"span", [], [.text "c"]⟩, .element ⟨"p", [], [.text " d\n"]⟩, .text "e"] :=
    .behind _ (.inside ⟨"span", [], _⟩ _ (.behind _ (.here _)))
  have apart : Element.StandsApart ⟨"br", [], []⟩ := by decide
  exact ⟨cut, apart, ((isSummarizedBy_pieces brokenLine).2.2 _ _ _ cut apart).2,
    by decide +kernel⟩

end NoteMarkup
