import NoteMarkup.Proofs.Tree.Descendants
import NoteMarkup.Proofs.Tree.TagPlace

/-!
# Where a tag is opened

A tag is opened in the markup of well-formed nodes exactly if an element among them has it.
Attribute names may hold a `<`, but what follows a name is a `=`, which ends no tag.
-/

namespace NoteMarkup

def endsTag (c : Char) : Bool :=
  Text.isBlank c || c == '/' || c == '>'

def StartsWithTag (tag : String) (cs : List Char) : Prop :=
  ∃ c rest, cs = tag.toList ++ c :: rest ∧ endsTag c = true

/-- Somewhere in the characters stand a `<`, the tag, and what ends it. -/
def OpensTag (tag : String) (cs : List Char) : Prop :=
  ∃ before after, cs = before ++ '<' :: after ∧ StartsWithTag tag after

def staysInName (c : Char) : Bool :=
  !endsTag c && c != '='

section

variable {tag : String} {cs rest : List Char}

theorem not_opensTag_nil : ¬ OpensTag tag [] := by
  rintro ⟨before, after, equal, -⟩
  cases before <;> cases equal

theorem opensTag_cons {c : Char} :
    OpensTag tag (c :: cs) ↔ (c = '<' ∧ StartsWithTag tag cs) ∨ OpensTag tag cs := by
  constructor
  · rintro ⟨before, after, equal, starts⟩
    cases before with
    | nil =>
      obtain ⟨rfl, rfl⟩ := List.cons.inj equal
      exact .inl ⟨rfl, starts⟩
    | cons first before =>
      obtain ⟨-, rfl⟩ := List.cons.inj equal
      exact .inr ⟨before, after, rfl, starts⟩
  · rintro (⟨rfl, starts⟩ | ⟨before, after, rfl, starts⟩)
    · exact ⟨[], cs, rfl, starts⟩
    · exact ⟨c :: before, after, rfl, starts⟩

theorem opensTag_cons_of_ne {c : Char} (h : c ≠ '<') :
    OpensTag tag (c :: cs) ↔ OpensTag tag cs := by
  rw [opensTag_cons]
  exact or_iff_right fun opened => h opened.1

theorem opensTag_append_of_forall_ne (h : ∀ c ∈ cs, c ≠ '<') :
    OpensTag tag (cs ++ rest) ↔ OpensTag tag rest := by
  induction cs with
  | nil => rfl
  | cons c cs ih =>
    obtain ⟨other, others⟩ := List.forall_mem_cons.mp h
    rw [List.cons_append, opensTag_cons_of_ne other, ih others]

/-- In front of the first character that stays in no name, a tag is the whole name. -/
theorem startsWithTag_append_cons {stop : Char} (htag : ∀ c ∈ tag.toList, staysInName c = true)
    (hcs : ∀ c ∈ cs, staysInName c = true) (hstop : staysInName stop = false) :
    StartsWithTag tag (cs ++ stop :: rest) ↔ cs = tag.toList ∧ endsTag stop = true := by
  constructor
  · rintro ⟨c, after, equal, ends⟩
    have hc : staysInName c = false := by simp [staysInName, ends]
    have name : (cs ++ stop :: rest).takeWhile staysInName = cs := takeWhile_append_cons hcs hstop
    have behind : (cs ++ stop :: rest).dropWhile staysInName = stop :: rest :=
      dropWhile_append_cons hcs hstop
    rw [equal, takeWhile_append_cons htag hc] at name
    rw [equal, dropWhile_append_cons htag hc] at behind
    obtain ⟨rfl, -⟩ := List.cons.inj behind
    exact ⟨name.symm, ends⟩
  · rintro ⟨rfl, ends⟩
    exact ⟨stop, rest, rfl, ends⟩

/-- A name that a `=` follows opens no tag, even if it holds a `<`. -/
theorem opensTag_name_append (htag : ∀ c ∈ tag.toList, staysInName c = true)
    (hcs : ∀ c ∈ cs, staysInName c = true) :
    OpensTag tag (cs ++ '=' :: rest) ↔ OpensTag tag rest := by
  have equals : staysInName '=' = false := rfl
  induction cs with
  | nil =>
    rw [List.nil_append]
    exact opensTag_cons_of_ne (by decide)
  | cons c cs ih =>
    obtain ⟨-, others⟩ := List.forall_mem_cons.mp hcs
    rw [List.cons_append, opensTag_cons, startsWithTag_append_cons htag others equals]
    refine (or_iff_right fun opened => ?_).trans (ih others)
    cases opened.2.2

end

theorem staysInName_of_isLowerNameChar {c : Char} (h : isLowerNameChar c = true) :
    staysInName c = true := by
  simp only [isLowerNameChar, Bool.and_eq_true, Bool.not_eq_true', bne_iff_ne] at h
  obtain ⟨⟨⟨⟨⟨⟨blank, equals⟩, greater⟩, slash⟩, -⟩, -⟩, -⟩ := h
  simp [staysInName, endsTag, blank, equals, greater, slash]

theorem staysInName_of_isTagName {tag : String} (h : isTagName tag = true) :
    ∀ c ∈ tag.toList, staysInName c = true ∧ c ≠ '<' := by
  obtain ⟨-, -, -, -, chars⟩ := exists_cons_of_isTagName h
  intro c member
  have tagChar := chars c member
  refine ⟨staysInName_of_isLowerNameChar (isLowerNameChar_of_isTagChar tagChar), ?_⟩
  rintro rfl
  cases tagChar

/-! ## Markup -/

theorem opensTag_escape {tag : String} {rest : List Char} (s : String) :
    OpensTag tag ((Text.escape s).toList ++ rest) ↔ OpensTag tag rest := by
  rw [Text.toList_escape]
  exact opensTag_append_of_forall_ne fun c h => (Text.ne_of_mem_escapeChars h).1

section

variable {tag : String} (htag : isTagName tag = true) {rest : List Char}

include htag

theorem opensTag_printAttribute {name : String} (hname : isAttributeName name = true)
    (value : String) :
    OpensTag tag ((printAttribute (name, value)).toList ++ rest) ↔ OpensTag tag rest := by
  obtain ⟨-, -, -, chars⟩ := exists_cons_of_isAttributeName hname
  have shape : (printAttribute (name, value)).toList ++ rest =
      ' ' :: (name.toList ++ '=' :: '"' :: ((Text.escape value).toList ++ '"' :: rest)) := by
    simp [printAttribute]
  have tagStays : ∀ c ∈ tag.toList, staysInName c = true := fun c h =>
    (staysInName_of_isTagName htag c h).1
  have nameStays : ∀ c ∈ name.toList, staysInName c = true := fun c h =>
    staysInName_of_isLowerNameChar (chars c h)
  rw [shape, opensTag_cons_of_ne (by decide), opensTag_name_append tagStays nameStays,
    opensTag_cons_of_ne (by decide), opensTag_escape, opensTag_cons_of_ne (by decide)]

theorem opensTag_printAttributes {attributes : List (String × String)}
    (names : ∀ attr ∈ attributes, isAttributeName attr.1 = true) :
    OpensTag tag ((printAttributes attributes).toList ++ rest) ↔ OpensTag tag rest := by
  induction attributes with
  | nil => rfl
  | cons attr attributes ih =>
    obtain ⟨own, others⟩ := List.forall_mem_cons.mp names
    rw [printAttributes, List.map_cons, String.join_cons, ← printAttributes,
      String.toList_append, List.append_assoc, opensTag_printAttribute htag own, ih others]

/-- An opening tag opens its own tag and no other. -/
theorem opensTag_openingTag {e : Element} (named : e.WellNamed) :
    OpensTag tag ((openingTag e.tag e.attributes).toList ++ rest) ↔
      e.tag = tag ∨ OpensTag tag rest := by
  obtain ⟨stop, after, behind, ends⟩ := exists_cons_printAttributes e.attributes rest
  have own := staysInName_of_isTagName named.tag
  have inner : OpensTag tag (e.tag.toList ++ ((printAttributes e.attributes).toList ++ '>' :: rest)) ↔
      OpensTag tag rest := by
    rw [opensTag_append_of_forall_ne fun c h => (own c h).2,
      opensTag_printAttributes htag named.names, opensTag_cons_of_ne (by decide)]
  have stops : endsTag stop = true := by obtain rfl | rfl := ends <;> rfl
  have starts : StartsWithTag tag (e.tag.toList ++ stop :: after) ↔ e.tag = tag := by
    rw [startsWithTag_append_cons (fun c h => (staysInName_of_isTagName htag c h).1)
      (fun c h => (own c h).1) (by simp [staysInName, stops]), String.toList_inj]
    exact and_iff_left stops
  have shape : (openingTag e.tag e.attributes).toList ++ rest =
      '<' :: (e.tag.toList ++ ((printAttributes e.attributes).toList ++ '>' :: rest)) := by
    simp [openingTag]
  rw [shape, opensTag_cons, inner, behind, starts]
  simp

theorem opensTag_closingTag {own : String} (hown : isTagName own = true) :
    OpensTag tag ((closingTag own).toList ++ rest) ↔ OpensTag tag rest := by
  obtain ⟨c, cs, nonempty, -, -⟩ := exists_cons_of_isTagName htag
  have shape : (closingTag own).toList ++ rest = '<' :: '/' :: (own.toList ++ '>' :: rest) := by
    simp [closingTag]
  have starts : ¬ StartsWithTag tag ([] ++ '/' :: (own.toList ++ '>' :: rest)) := by
    rw [startsWithTag_append_cons (fun d h => (staysInName_of_isTagName htag d h).1)
      (fun d h => by cases h) (by decide), nonempty]
    rintro ⟨equal, -⟩
    cases equal
  rw [shape, opensTag_cons, opensTag_cons_of_ne (by decide),
    opensTag_append_of_forall_ne fun d h => (staysInName_of_isTagName hown d h).2,
    opensTag_cons_of_ne (by decide)]
  exact or_iff_right fun opened => starts opened.2

end

mutual

theorem Element.opensTag_print {tag : String} (htag : isTagName tag = true) {rest : List Char} :
    ∀ {e : Element}, (Node.element e).WellFormed →
      (OpensTag tag (e.print.toList ++ rest) ↔
        (∃ inner ∈ (Node.element e).elements, inner.tag = tag) ∨ OpensTag tag rest)
  | ⟨own, attributes, children⟩, .element named void inner => by
    have elements : (Node.element ⟨own, attributes, children⟩).elements =
        ⟨own, attributes, children⟩ :: descendantsOf children := rfl
    rw [elements, List.exists_mem_cons_iff]
    cases hvoid : isVoidTag own with
    | true =>
      rw [Element.print_of_void hvoid, opensTag_openingTag htag named, void hvoid]
      simp [descendantsOf]
    | false =>
      rw [Element.print_of_not_void hvoid]
      simp only [String.toList_append, List.append_assoc]
      rw [opensTag_openingTag htag named, opensTag_printNodes htag inner,
        opensTag_closingTag htag named.tag, or_assoc]

/-- The markup of well-formed nodes opens the tags of their elements and no others. -/
theorem opensTag_printNodes {tag : String} (htag : isTagName tag = true) {rest : List Char} :
    ∀ {nodes : List Node}, (∀ node ∈ nodes, node.WellFormed) →
      (OpensTag tag ((printNodes nodes).toList ++ rest) ↔
        (∃ e ∈ descendantsOf nodes, e.tag = tag) ∨ OpensTag tag rest)
  | [], _ => by simp [printNodes, descendantsOf]
  | node :: nodes, wf => by
    obtain ⟨wfFirst, wfRest⟩ := List.forall_mem_cons.mp wf
    rw [printNodes, descendantsOf, String.toList_append, List.append_assoc,
      Node.opensTag_print htag wfFirst, opensTag_printNodes htag wfRest, ← or_assoc]
    simp only [List.mem_append, or_and_right, exists_or]

theorem Node.opensTag_print {tag : String} (htag : isTagName tag = true) {rest : List Char} :
    ∀ {node : Node}, node.WellFormed →
      (OpensTag tag (node.print.toList ++ rest) ↔
        (∃ e ∈ node.elements, e.tag = tag) ∨ OpensTag tag rest)
  | .element _, wf => Element.opensTag_print htag wf
  | .text s, _ => by
    rw [Node.print, opensTag_escape]
    simp [Node.elements]

end

end NoteMarkup
