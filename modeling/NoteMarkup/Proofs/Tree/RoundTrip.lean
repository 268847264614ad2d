import NoteMarkup.Proofs.Tree.Siblings
import NoteMarkup.Proofs.Tree.TagPlace

/-!
# Reading what was written

The markup of well-formed nodes is read back as those nodes, with each run of texts as one
text, unless elements stand too deep; then reading stops at the first that does.

- `readsBack_printNodes` proves it in front of any other markup;
- `parseStrict_printNodes` is the statement about whole texts.
-/

namespace NoteMarkup

/-- What was found in front of `after` are these nodes, or an error at the first place at which
    an element stands too deep. -/
def ReadsBack (found after : Found) (nodes : List Node) (places : List TagPlace) : Prop :=
  match places.find? TagPlace.isTooDeep with
  | none => found = after.prepend nodes
  | some place => found.rest = .error (.nestingTooDeep place.offset)

theorem readsBack_nil (found : Found) : ReadsBack found found [] [] := rfl

theorem ReadsBack.append {found middle after : Found} {nodes more : List Node}
    {places morePlaces : List TagPlace} (first : ReadsBack found middle nodes places)
    (second : ReadsBack middle after more morePlaces) :
    ReadsBack found after (nodes ++ more) (places ++ morePlaces) := by
  unfold ReadsBack at *
  rw [List.find?_append]
  cases hfirst : places.find? TagPlace.isTooDeep with
  | some place => simpa [hfirst] using first
  | none =>
    rw [hfirst] at first
    subst first
    cases hsecond : morePlaces.find? TagPlace.isTooDeep with
    | some place => simpa [hsecond, Found.prepend] using second
    | none =>
      rw [hsecond] at second
      subst second
      exact (Found.prepend_append _ _ _).symm

theorem endsText_closingTag (tag : String) (rest : List Char) :
    EndsText ((closingTag tag).toList ++ rest) := by
  right
  simp [closingTag, startsMarkup]

theorem endsText_openingTag {tag : String} (h : isTagName tag = true)
    (attributes : List (String × String)) (rest : List Char) :
    EndsText ((openingTag tag attributes).toList ++ rest) := by
  obtain ⟨c, cs, heq, hlower, -⟩ := exists_cons_of_isTagName h
  right
  simp [openingTag, heq, startsMarkup, Text.isAlpha_of_isLower hlower]

/-- A text ends in front of siblings that it stands apart from. -/
theorem endsText_printNodes {nodes : List Node} {rest : List Char}
    (wf : ∀ node ∈ nodes, node.WellFormed) (hfirst : ∀ first ∈ nodes.head?, first.isText = false)
    (hrest : EndsText rest) : EndsText ((printNodes nodes).toList ++ rest) := by
  cases nodes with
  | nil => simpa [printNodes] using hrest
  | cons first nodes =>
    cases wf first List.mem_cons_self with
    | text nonempty => simp [Node.isText] at hfirst
    | @element tag attributes children named void inner =>
      obtain ⟨after, equal⟩ := Element.exists_print_eq ⟨tag, attributes, children⟩
      rw [printNodes, Node.print, equal]
      simp only [String.toList_append, List.append_assoc]
      exact endsText_openingTag named.tag _ _

/-- A text reads on up to markup, so what follows a text must not be one. -/
theorem endsText_of_apart {node : Node} {nodes : List Node} {rest : List Char}
    (apart : Apart (node :: nodes)) (wf : ∀ other ∈ nodes, other.WellFormed)
    (ends : EndsText rest) (text : node.isText = true) :
    EndsText ((printNodes nodes).toList ++ rest) := by
  refine endsText_printNodes wf (fun first hfirst => ?_) ends
  cases nodes with
  | nil => cases hfirst
  | cons second nodes =>
    cases hfirst
    exact (List.isChain_cons_cons.mp apart).1 text

/-! ## Elements -/

section

variable {size depth offset : Nat} {open? : Option OpenTag} {tag : String}
  {attributes : List (String × String)} {children : List Node} {rest : List Char}

theorem lexemesOf_openingTag (named : Element.WellNamed ⟨tag, attributes, children⟩)
    (rest : List Char) :
    lexemesOf ((openingTag tag attributes).toList ++ rest) =
      ⟨(openingTag tag attributes).toList ++ rest, .opening tag attributes false⟩ ::
        lexemesOf rest :=
  lexemesOf_of_readToken (by simp [openingTag]) (readToken_openingTag named rest)

theorem readSiblings_closingTag (h : isTagName tag = true) (source : List Char) :
    readSiblings size depth (some ⟨tag, source⟩) (lexemesOf ((closingTag tag).toList ++ rest)) =
      ⟨[], .ok (lexemesOf rest)⟩ := by
  rw [lexemesOf_of_readToken (by simp [closingTag]) (readToken_closingTag h rest),
    readSiblings_closing]
  simp

theorem readsBack_void (named : Element.WellNamed ⟨tag, attributes, []⟩)
    (hvoid : isVoidTag tag = true) :
    ReadsBack
      (readSiblings size depth open? (lexemesOf ((openingTag tag attributes).toList ++ rest)))
      (readSiblings size depth open? (lexemesOf rest))
      [.element ⟨tag, attributes, []⟩] [⟨tag, attributes, depth, offset⟩] := by
  have hplace : TagPlace.isTooDeep ⟨tag, attributes, depth, offset⟩ = false := by
    simp [TagPlace.isTooDeep, hvoid]
  rw [lexemesOf_openingTag named, readSiblings_opening_of_childless (by simp [hvoid])]
  simp [ReadsBack, hplace]

theorem readsBack_tooDeep (named : Element.WellNamed ⟨tag, attributes, children⟩)
    (hvoid : isVoidTag tag = false) (places : List TagPlace) (after : Found) (nodes : List Node)
    (hsize : offset + ((openingTag tag attributes).toList ++ rest).length = size) :
    ReadsBack
      (readSiblings size maxDepth open? (lexemesOf ((openingTag tag attributes).toList ++ rest)))
      after nodes (⟨tag, attributes, maxDepth, offset⟩ :: places) := by
  have hplace : TagPlace.isTooDeep ⟨tag, attributes, maxDepth, offset⟩ = true := by
    simp [TagPlace.isTooDeep, hvoid, maxDepth]
  have hoffset : offsetOf size ((openingTag tag attributes).toList ++ rest) = offset := by
    rw [offsetOf, ← hsize, Nat.add_sub_cancel]
  rw [lexemesOf_openingTag named,
    readSiblings_opening_of_maxDepth_le (by simp [hvoid]) (Nat.le_refl _), hoffset]
  simp [ReadsBack, hplace]

/-- A printed element reads back if its content does, in front of its closing tag. -/
theorem readsBack_element (named : Element.WellNamed ⟨tag, attributes, children⟩)
    (hvoid : isVoidTag tag = false) (hdepth : depth < maxDepth) {places : List TagPlace}
    (inner : ∀ source, ReadsBack
      (readSiblings size (depth + 1) (some ⟨tag, source⟩)
        (lexemesOf ((printNodes children).toList ++ ((closingTag tag).toList ++ rest))))
      (readSiblings size (depth + 1) (some ⟨tag, source⟩)
        (lexemesOf ((closingTag tag).toList ++ rest)))
      children places) :
    ReadsBack
      (readSiblings size depth open? (lexemesOf ((openingTag tag attributes).toList ++
        ((printNodes children).toList ++ ((closingTag tag).toList ++ rest)))))
      (readSiblings size depth open? (lexemesOf rest))
      [.element ⟨tag, attributes, children⟩] (⟨tag, attributes, depth, offset⟩ :: places) := by
  have hplace : TagPlace.isTooDeep ⟨tag, attributes, depth, offset⟩ = false := by
    have : depth ≠ 512 := Nat.ne_of_lt hdepth
    simp [TagPlace.isTooDeep, this]
  have hchildless : (false || isVoidTag tag) = false := by simp [hvoid]
  rw [lexemesOf_openingTag named]
  specialize inner ((openingTag tag attributes).toList ++
    ((printNodes children).toList ++ ((closingTag tag).toList ++ rest)))
  rw [readSiblings_closingTag named.tag, ReadsBack] at inner
  rw [ReadsBack, List.find?_cons, hplace]
  cases hfind : places.find? TagPlace.isTooDeep with
  | none =>
    rw [hfind] at inner
    simp only at inner ⊢
    rw [readSiblings_opening_of_ok hchildless hdepth (by rw [inner]; rfl), inner]
    simp [Found.prepend]
  | some place =>
    rw [hfind] at inner
    simp only at inner ⊢
    rw [readSiblings_opening_of_error hchildless hdepth inner]

end

mutual

/-- Printed siblings that are well-formed, with texts that stand apart, read back. -/
theorem readsBack_printNodes {size : Nat} :
    ∀ {nodes : List Node} {depth offset : Nat} {open? : Option OpenTag} {rest : List Char},
      (∀ node ∈ nodes, node.WellFormed) → Separated nodes → depth ≤ maxDepth → EndsText rest →
      offset + ((printNodes nodes).toList ++ rest).length = size →
      ReadsBack
        (readSiblings size depth open? (lexemesOf ((printNodes nodes).toList ++ rest)))
        (readSiblings size depth open? (lexemesOf rest)) nodes (tagPlacesOf depth offset nodes)
  | [], _, _, _, _, _, _, _, _, _ => readsBack_nil _
  | node :: nodes, depth, offset, open?, rest, wf, separated, hdepth, hrest, hsize => by
    have wfRest : ∀ other ∈ nodes, other.WellFormed := fun other h =>
      wf other (List.mem_cons_of_mem _ h)
    have separatedRest : Separated nodes :=
      ⟨List.IsChain.tail separated.apart, fun other h =>
        separated.inner other (List.mem_cons_of_mem _ h)⟩
    have hends : node.isText = true → EndsText ((printNodes nodes).toList ++ rest) :=
      endsText_of_apart separated.apart wfRest hrest
    rw [printNodes, String.toList_append, List.append_assoc] at hsize ⊢
    refine ReadsBack.append (Node.readsBack_print (wf node List.mem_cons_self)
      (separated.inner node List.mem_cons_self) hdepth hends hsize) ?_
    refine readsBack_printNodes wfRest separatedRest hdepth hrest ?_
    simp only [List.length_append, String.length_toList] at hsize ⊢
    omega

theorem Node.readsBack_print {size : Nat} :
    ∀ {node : Node} {depth offset : Nat} {open? : Option OpenTag} {rest : List Char},
      node.WellFormed → node.Separated → depth ≤ maxDepth →
      (node.isText = true → EndsText rest) →
      offset + (node.print.toList ++ rest).length = size →
      ReadsBack
        (readSiblings size depth open? (lexemesOf (node.print.toList ++ rest)))
        (readSiblings size depth open? (lexemesOf rest)) [node] (node.tagPlaces depth offset)
  | .text s, depth, offset, open?, rest, .text nonempty, _, _, hends, _ => by
    rw [Node.print, lexemesOf_of_readToken (by simpa using fun h => absurd h nonempty)
      (readToken_escape nonempty (hends rfl)), readSiblings_text]
    rfl
  | .element ⟨tag, attributes, children⟩, depth, offset, open?, rest, .element named void wf,
      .element apart separated, hdepth, _, hsize => by
    rw [Node.tagPlaces, Element.tagPlaces]
    rw [Node.print] at hsize ⊢
    cases hvoid : isVoidTag tag with
    | true =>
      cases void hvoid
      rw [Element.print_of_void hvoid]
      exact readsBack_void named hvoid
    | false =>
      rw [Element.print_of_not_void hvoid] at hsize ⊢
      simp only [String.toList_append, List.append_assoc] at hsize ⊢
      rw [if_neg Bool.false_ne_true]
      -- at the greatest depth this element is the first that is too deep
      obtain hlt | rfl := Nat.lt_or_eq_of_le hdepth
      · refine readsBack_element named hvoid hlt fun source => ?_
        refine readsBack_printNodes wf ⟨apart, separated⟩ hlt (endsText_closingTag tag rest) ?_
        simp only [List.length_append, String.length_toList] at hsize ⊢
        omega
      · exact readsBack_tooDeep named hvoid _ _ _ hsize

end

/-! ## Whole texts -/

/-- The markup of well-formed nodes reads back as a whole, with each run of texts as one. -/
theorem readsBack_document {nodes : List Node} (wf : ∀ node ∈ nodes, node.WellFormed) :
    ReadsBack (readSiblings (printNodes nodes).length 0 none (lexemes (printNodes nodes)))
      ⟨[], .ok []⟩ (mergedOf nodes) (tagPlacesOf 0 0 nodes) := by
  have hsize : 0 + ((printNodes (mergedOf nodes)).toList ++ []).length = (printNodes nodes).length := by
    simp [printNodes_mergedOf, String.length_toList]
  have h := @readsBack_printNodes _ _ 0 0 none [] (wellFormed_mergedOf wf) (separated_mergedOf nodes)
    (Nat.zero_le _) (.inl rfl) hsize
  rw [printNodes_mergedOf, List.append_nil, tagPlacesOf_mergedOf, lexemesOf, readSiblings_nil] at h
  exact h

/-- Markup of well-formed nodes in which no element stands too deep is read as those nodes. -/
theorem parseStrict_of_find?_eq_none {nodes : List Node} (wf : ∀ node ∈ nodes, node.WellFormed)
    (h : (tagPlacesOf 0 0 nodes).find? TagPlace.isTooDeep = none) :
    parseStrict (printNodes nodes) = .ok ⟨rootTag, [], mergedOf nodes⟩ := by
  have hread := readsBack_document wf
  rw [ReadsBack, h] at hread
  simp only at hread
  rw [parseStrict_eq, parse_eq, hread]
  simp [Found.prepend, Except.map]

theorem parseStrict_of_find?_eq_some {nodes : List Node} (wf : ∀ node ∈ nodes, node.WellFormed)
    {place : TagPlace} (h : (tagPlacesOf 0 0 nodes).find? TagPlace.isTooDeep = some place) :
    parseStrict (printNodes nodes) = .error (.nestingTooDeep place.offset) := by
  have hread := readsBack_document wf
  rw [ReadsBack, h] at hread
  simp only at hread
  rw [parseStrict_eq, hread]
  rfl

/-- Reading undoes writing.  The markup of well-formed nodes is read without error as those
    nodes, each run of texts concatenated, if every element that can have content stands in
    fewer than 512 others.  Otherwise reading stops at the opening tag of the first one, in
    document order, that stands in 512. -/
theorem parseStrict_printNodes {nodes : List Node} (wf : ∀ node ∈ nodes, node.WellFormed) :
    ((∀ place ∈ tagPlacesOf 0 0 nodes, isVoidTag place.tag = false → place.ancestors < 512) →
      parseStrict (printNodes nodes) = .ok ⟨rootTag, [], mergedOf nodes⟩) ∧
    ((∃ place ∈ tagPlacesOf 0 0 nodes, isVoidTag place.tag = false ∧ 512 ≤ place.ancestors) →
      ∃ place before after, (tagPlacesOf 0 0 nodes).find? TagPlace.isTooDeep = some place ∧
        printNodes nodes = before ++ openingTag place.tag place.attributes ++ after ∧
        place.offset = before.length ∧
        parseStrict (printNodes nodes) = .error (.nestingTooDeep place.offset) ∧
        (ParseError.nestingTooDeep place.offset).message =
          "elements nested deeper than 512 at offset " ++ toString place.offset) := by
  constructor
  · intro hall
    refine parseStrict_of_find?_eq_none wf (List.find?_eq_none.mpr fun place hplace htoo => ?_)
    simp only [TagPlace.isTooDeep, Bool.and_eq_true, Bool.not_eq_true', beq_iff_eq] at htoo
    exact absurd htoo.2 (Nat.ne_of_lt (hall place hplace htoo.1))
  · rintro ⟨deep, hdeep, hvoid, hancestors⟩
    cases hfind : (tagPlacesOf 0 0 nodes).find? TagPlace.isTooDeep with
    | none =>
      have hlt := ancestors_lt_of_forall (Nat.zero_le 512)
        (fun place hplace => by simpa using List.find?_eq_none.mp hfind place hplace)
        deep hdeep hvoid
      exact absurd hlt (Nat.not_lt.mpr hancestors)
    | some place =>
      obtain ⟨before, after, hprint, hoffset⟩ :=
        printNodes_eq_of_mem_tagPlacesOf (List.mem_of_find?_eq_some hfind)
      rw [Nat.zero_add] at hoffset
      exact ⟨place, before, after, rfl, hprint, hoffset, parseStrict_of_find?_eq_some wf hfind, rfl⟩

def nestedDivs : Nat → List Node
  | 0 => []
  | n + 1 => [.element ⟨"div", [], nestedDivs n⟩]

theorem wellFormed_nestedDivs : ∀ n, ∀ node ∈ nestedDivs n, node.WellFormed
  | 0, _, h => by cases h
  | n + 1, node, h => by
    obtain rfl := List.mem_singleton.mp h
    have htag : isTagName "div" = true := by decide
    have named : Element.WellNamed ⟨"div", [], nestedDivs n⟩ :=
      ⟨htag, fun _ h => (List.not_mem_nil h).elim, List.nodup_nil⟩
    exact .element named (fun h => absurd h (by decide)) (wellFormed_nestedDivs n)

theorem find?_tagPlacesOf_nestedDivs :
    ∀ {n ancestors : Nat} (offset : Nat), ancestors ≤ 512 → 512 < n + ancestors →
      (tagPlacesOf ancestors offset (nestedDivs n)).find? TagPlace.isTooDeep =
        some ⟨"div", [], 512, offset + 5 * (512 - ancestors)⟩
  | 0, ancestors, offset, hle, hlt => by omega
  | n + 1, ancestors, offset, hle, hlt => by
    simp only [nestedDivs, tagPlacesOf, Node.tagPlaces, Element.tagPlaces, List.append_nil,
      List.find?_cons]
    obtain rfl | hne := Nat.eq_or_lt_of_le hle
    · simp [TagPlace.isTooDeep, show isVoidTag "div" = false from by decide]
    · have hown : TagPlace.isTooDeep ⟨"div", [], ancestors, offset⟩ = false := by
        simp [TagPlace.isTooDeep, Nat.ne_of_lt hne]
      rw [hown, if_neg (by decide), find?_tagPlacesOf_nestedDivs _ hne (by omega)]
      simp [show (openingTag "div" []).length = 5 from by decide]
      omega

/-- A name with `<` and `&`, a value with a quote, two texts side by side and a void element are
    read back, and of 600 nested elements the 513th is too deep. -/
theorem parseStrict_printNodes_mixed :
    parseStrict (printNodes [.text "a<", .text "&amp;", .element ⟨"p", [("x<&", "\"'&lt;")],
        [.element ⟨"br", [], []⟩, .text ">"]⟩]) =
      .ok ⟨rootTag, [], [.text "a<&amp;", .element ⟨"p", [("x<&", "\"'&lt;")],
        [.element ⟨"br", [], []⟩, .text ">"]⟩]⟩ ∧
    parseStrict (printNodes (nestedDivs 600)) = .error (.nestingTooDeep 2560) := by
  constructor
  · exact (parseStrict_printNodes (by decide)).1 (by decide)
  · obtain ⟨place, before, after, hfind, -, -, hread, -⟩ :=
      (parseStrict_printNodes (wellFormed_nestedDivs 600)).2
        ⟨_, List.mem_of_find?_eq_some (find?_tagPlacesOf_nestedDivs 0 (by omega) (by omega)),
          by decide, Nat.le_refl _⟩
    rw [find?_tagPlacesOf_nestedDivs 0 (by omega) (by omega)] at hfind
    cases hfind
    exact hread

end NoteMarkup
