import NoteMarkup.Proofs.Page.Writer
import NoteMarkup.Proofs.Tree.Descendants

/-!
# What encloses the text of a block

Inside a block every character of text is kept, in its place and in its formatting.

- `enclosedCharactersOf` lists the characters of a list of nodes with what encloses them;
- `enclosedCharactersOf_renderInlines` says that nothing changes from the note to the page;
- `exists_page_of_writeInlines` is the statement about what is written.
-/

namespace NoteMarkup

/-- What an element says about the text in it: its tag on the page and, for a link, where it
    leads. -/
structure Enclosure where
  tag : String
  href? : Option String := none
  deriving Repr, DecidableEq

/-- What an element of a note says about the text in it.  An element without formatting of its
    own says nothing. -/
def Element.noteEnclosure? (e : Element) : Option Enclosure :=
  match e.inlineKind with
  | .strong => some ⟨"strong", none⟩
  | .emphasis => some ⟨"em", none⟩
  | .underline => some ⟨"u", none⟩
  | .strikethrough => some ⟨"s", none⟩
  | .mark => some ⟨"mark", none⟩
  | .code => some ⟨"code", none⟩
  | .anchor => some ⟨"a", some (e.attrD "href")⟩
  | _ => none

def Element.pageEnclosure? (e : Element) : Option Enclosure :=
  some ⟨e.tag, if e.tag = "a" then e.attr? "href" else none⟩

section

variable (own? : Element → Option Enclosure) (outer : List Enclosure)

mutual

def Element.enclosedCharacters (outer : List Enclosure) :
    Element → List (Char × List Enclosure)
  | ⟨tag, attributes, children⟩ =>
    enclosedCharactersOf (outer ++ (own? ⟨tag, attributes, children⟩).toList) children

/-- The characters of all texts in a list of nodes, in document order, each with what encloses it,
    the outermost first.  What an element itself says is given by `own?`, and `outer` is what
    encloses all the nodes. -/
def enclosedCharactersOf (outer : List Enclosure) : List Node → List (Char × List Enclosure)
  | [] => []
  | node :: nodes => node.enclosedCharacters outer ++ enclosedCharactersOf outer nodes

def Node.enclosedCharacters (outer : List Enclosure) : Node → List (Char × List Enclosure)
  | .element e => e.enclosedCharacters outer
  | .text s => s.toList.map fun c => (c, outer)

end

theorem enclosedCharactersOf_append (nodes more : List Node) :
    enclosedCharactersOf own? outer (nodes ++ more) =
      enclosedCharactersOf own? outer nodes ++ enclosedCharactersOf own? outer more := by
  induction nodes with
  | nil => rfl
  | cons node nodes ih =>
    rw [List.cons_append, enclosedCharactersOf, enclosedCharactersOf, ih, List.append_assoc]

theorem enclosedCharactersOf_ofText (s : String) :
    enclosedCharactersOf own? outer (Node.ofText s) = s.toList.map fun c => (c, outer) := by
  unfold Node.ofText
  split
  · rename_i empty
    rw [String.isEmpty_iff.mp empty]
    rfl
  · simp [enclosedCharactersOf, Node.enclosedCharacters]

theorem enclosedCharactersOf_tagged (tag : String) (attributes : List (String × String))
    (children : List Node) :
    enclosedCharactersOf own? outer [tagged tag attributes children] =
      enclosedCharactersOf own? (outer ++ (own? ⟨tag, attributes, children⟩).toList) children := by
  simp [enclosedCharactersOf, tagged, Node.enclosedCharacters, Element.enclosedCharacters]

mutual

theorem Element.map_fst_enclosedCharacters :
    ∀ (outer : List Enclosure) (e : Element),
      (e.enclosedCharacters own? outer).map Prod.fst = e.textContent.toList
  | outer, ⟨_, _, children⟩ => by
    rw [Element.enclosedCharacters, Element.textContent, map_fst_enclosedCharactersOf]

/-- The characters alone are the text content. -/
theorem map_fst_enclosedCharactersOf :
    ∀ (outer : List Enclosure) (nodes : List Node),
      (enclosedCharactersOf own? outer nodes).map Prod.fst = (textContentOf nodes).toList
  | _, [] => rfl
  | outer, node :: nodes => by
    rw [enclosedCharactersOf, textContentOf, List.map_append, String.toList_append,
      Node.map_fst_enclosedCharacters outer node, map_fst_enclosedCharactersOf outer nodes]

theorem Node.map_fst_enclosedCharacters :
    ∀ (outer : List Enclosure) (node : Node),
      (node.enclosedCharacters own? outer).map Prod.fst = node.textContent.toList
  | outer, .element e => Element.map_fst_enclosedCharacters outer e
  | _, .text s => by simp [Node.enclosedCharacters, Node.textContent, Function.comp_def]

end

end

/-! ## Inline content -/

/-- Inside a block the element is shown with its text: it is no image and no formula, which are
    made from attributes, and no line break with content. -/
structure Element.KeepsText (e : Element) : Prop where
  image : e.inlineKind ≠ .image
  math : e.inlineKind ≠ .math
  lineBreak : e.tag = "br" → e.children = []

theorem Element.tag_eq_of_lineBreak {e : Element} (kind : e.inlineKind = .lineBreak) :
    e.tag = "br" := by
  unfold Element.inlineKind at kind
  split at kind
  · unfold InlineKind.ofSpanType at kind
    split at kind <;> cases kind
  · cases kind
  · assumption
  · cases kind

mutual

theorem Element.enclosedCharactersOf_renderInline [UrlReader] (options : Options) :
    ∀ {outer : List Enclosure} {e : Element}, e.KeepsText →
      (∀ inner ∈ e.descendants, inner.KeepsText) →
      enclosedCharactersOf Element.pageEnclosure? outer (e.renderInline options) =
        e.enclosedCharacters Element.noteEnclosure? outer
  | outer, ⟨tag, attributes, children⟩, own, inner => by
    have content : ∀ outer : List Enclosure,
        enclosedCharactersOf Element.pageEnclosure? outer (renderInlines options children) =
          enclosedCharactersOf Element.noteEnclosure? outer children :=
      fun _ => enclosedCharactersOf_renderInlines options inner
    rw [Element.renderInline, Element.enclosedCharacters, Element.noteEnclosure?]
    cases kind : Element.inlineKind ⟨tag, attributes, children⟩ <;> simp only
    case image => exact absurd kind own.image
    case math => exact absurd kind own.math
    case memo =>
      -- the mark of a memo has no text, so it may be there or not
      rw [Option.toList_none, List.append_nil, ← content]
      cases renderInlines options children with
      | nil => rfl
      | cons first more =>
        rw [enclosedCharactersOf_append, enclosedCharactersOf_tagged, enclosedCharactersOf,
          List.append_nil]
    case lineBreak =>
      obtain rfl : children = [] := own.lineBreak (Element.tag_eq_of_lineBreak kind)
      rfl
    case other | plainText | backslash =>
      rw [Option.toList_none, List.append_nil]
      exact content outer
    all_goals
      rw [enclosedCharactersOf_tagged, content]
      rfl

theorem enclosedCharactersOf_renderInlines [UrlReader] (options : Options) :
    ∀ {outer : List Enclosure} {nodes : List Node}, (∀ inner ∈ descendantsOf nodes, inner.KeepsText) →
      enclosedCharactersOf Element.pageEnclosure? outer (renderInlines options nodes) =
        enclosedCharactersOf Element.noteEnclosure? outer nodes
  | _, [], _ => rfl
  | outer, node :: nodes, keeps => by
    rw [descendantsOf] at keeps
    obtain ⟨own, others⟩ := List.forall_mem_append.mp keeps
    rw [renderInlines, enclosedCharactersOf_append, enclosedCharactersOf,
      Node.enclosedCharactersOf_renderInline options own,
      enclosedCharactersOf_renderInlines options others]

theorem Node.enclosedCharactersOf_renderInline [UrlReader] (options : Options) :
    ∀ {outer : List Enclosure} {node : Node}, (∀ inner ∈ node.elements, inner.KeepsText) →
      enclosedCharactersOf Element.pageEnclosure? outer (node.renderInline options) =
        node.enclosedCharacters Element.noteEnclosure? outer
  | _, .element _, keeps => by
    obtain ⟨own, inner⟩ := List.forall_mem_cons.mp keeps
    exact Element.enclosedCharactersOf_renderInline options own inner
  | outer, .text s, _ => enclosedCharactersOf_ofText _ outer s

end

/-- What is written for the nodes inside a block is the markup of nodes that follow the schema and
    have the same characters in the same order, each in the same formatting and in the same links,
    if every element keeps its text. -/
theorem exists_page_of_writeInlines [UrlReader] (options : Options) {nodes : List Node}
    (keeps : ∀ inner ∈ descendantsOf nodes, inner.KeepsText) :
    ∃ page : List Node, (∀ node ∈ page, IsInline node) ∧
      writeInlines options nodes = printNodes page ∧
      enclosedCharactersOf Element.pageEnclosure? [] page =
        enclosedCharactersOf Element.noteEnclosure? [] nodes :=
  ⟨renderInlines options nodes, isInline_of_mem_renderInlines options nodes,
    writeInlines_eq options nodes, enclosedCharactersOf_renderInlines options keeps⟩

def nestedFormatting : List Node :=
  [.text "a<", .element ⟨"span", [("data-type", "strong")],
    [.element ⟨"span", [("data-type", "inline-memo")],
      [.element ⟨"a", [("href", "/?x&y")], [.text "b"]⟩]⟩,
      .element ⟨"span", [("data-type", "inline-memo")], []⟩,
      .element ⟨"code", [], [.text "c"]⟩, .element ⟨"br", [], []⟩]⟩]

theorem exists_page_of_writeInlines_nestedFormatting :
    (∀ inner ∈ descendantsOf nestedFormatting, inner.KeepsText) ∧
    ∃ page : List Node, (∀ node ∈ page, IsInline node) ∧
      writeInlines {} nestedFormatting = printNodes page ∧
      enclosedCharactersOf Element.pageEnclosure? [] page =
        [('a', []), ('<', []), ('b', [⟨"strong", none⟩, ⟨"a", some "/?x&y"⟩]),
          ('c', [⟨"strong", none⟩])] := by
  have keeps : ∀ inner ∈ descendantsOf nestedFormatting, inner.KeepsText := by
    have below : ∀ inner ∈ descendantsOf nestedFormatting, inner.inlineKind ≠ .image ∧
        inner.inlineKind ≠ .math ∧ (inner.tag = "br" → inner.children.isEmpty = true) := by decide
    intro inner h
    obtain ⟨image, math, lineBreak⟩ := below inner h
    exact ⟨image, math, fun tag => List.isEmpty_iff.mp (lineBreak tag)⟩
  exact ⟨keeps, exists_page_of_writeInlines {} keeps⟩

end NoteMarkup
