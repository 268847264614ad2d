import NoteMarkup.Proofs.Tree.Descendants

/-!
# The first match below an element

A search finds the first match in document order.  Where nodes without a match are put in or taken
out elsewhere, it finds the same (`EditedBelow.find?_eq`).
-/

namespace NoteMarkup

/-- The first of these elements that satisfies `p` is found, or none does and nothing is found. -/
def IsFirst (p : Element → Bool) (elements : List Element) : Option Element → Prop
  | some found => p found = true ∧
      ∃ before behind, elements = before ++ found :: behind ∧ ∀ e ∈ before, p e = false
  | none => ∀ e ∈ elements, p e = false

theorem find?_eq_iff_isFirst {p : Element → Bool} {elements : List Element}
    {found? : Option Element} : elements.find? p = found? ↔ IsFirst p elements found? := by
  cases found? with
  | none => simp [IsFirst]
  | some found => simp [IsFirst, List.find?_eq_some_iff_append]

theorem Element.find?_eq_iff_isFirst {p : Element → Bool} {e : Element} {found? : Option Element} :
    e.find? p = found? ↔ IsFirst p e.descendants found? := by
  rw [Element.find?_eq, NoteMarkup.find?_eq_iff_isFirst]

/-- Texts, and elements without a match in them, are put in or taken out at any depth, but not
    inside of the first match.  With `behind` this match is in front of the nodes. -/
inductive Edited (p : Element → Bool) : Bool → List Node → List Node → Prop where
  | nil {behind : Bool} : Edited p behind [] []
  | putIn {behind : Bool} {node : Node} {nodes changed : List Node}
      (fails : ∀ e ∈ node.elements, p e = false) (edited : Edited p behind nodes changed) :
      Edited p behind nodes (node :: changed)
  | takenOut {behind : Bool} {node : Node} {nodes changed : List Node}
      (fails : ∀ e ∈ node.elements, p e = false) (edited : Edited p behind nodes changed) :
      Edited p behind (node :: nodes) changed
  | kept {behind : Bool} {node : Node} {nodes changed : List Node}
      (edited : Edited p (behind || (node.find? p).isSome) nodes changed) :
      Edited p behind (node :: nodes) (node :: changed)
  /-- Inside of an element, which is not the first match itself. -/
  | inside {behind : Bool} {tag : String} {attributes : List (String × String)}
      {children others nodes changed : List Node}
      (outside : behind = true ∨ p ⟨tag, attributes, children⟩ = false)
      (inner : Edited p behind children others)
      (edited : Edited p (behind || (findIn? p children).isSome) nodes changed) :
      Edited p behind (.element ⟨tag, attributes, children⟩ :: nodes)
        (.element ⟨tag, attributes, others⟩ :: changed)

inductive EditedBelow (p : Element → Bool) : Element → Element → Prop where
  | below {tag : String} {attributes : List (String × String)} {children others : List Node}
      (edited : Edited p false children others) :
      EditedBelow p ⟨tag, attributes, children⟩ ⟨tag, attributes, others⟩

def IgnoresChildren (p : Element → Bool) : Prop :=
  ∀ tag attributes children others, p ⟨tag, attributes, children⟩ = p ⟨tag, attributes, others⟩

section

variable {p : Element → Bool}

theorem findIn?_cons (node : Node) (nodes : List Node) :
    findIn? p (node :: nodes) = (node.find? p).or (findIn? p nodes) := by
  rw [findIn?]
  cases node.find? p <;> rfl

theorem find?_element {tag : String} {attributes : List (String × String)} {children : List Node}
    (fails : p ⟨tag, attributes, children⟩ = false) :
    Node.find? p (.element ⟨tag, attributes, children⟩) = findIn? p children := by
  rw [Node.find?, fails, Element.find?]
  exact if_neg Bool.false_ne_true

theorem find?_eq_none_of_fails {node : Node} (fails : ∀ e ∈ node.elements, p e = false) :
    node.find? p = none := by
  rw [Node.find?_eq]
  exact find?_eq_iff_isFirst.mpr fails

/-- As long as no match has been found, the changes do not matter. -/
theorem Edited.findIn?_eq (ignores : IgnoresChildren p) {behind : Bool} {nodes changed : List Node}
    (edited : Edited p behind nodes changed) (front : behind = false) :
    findIn? p changed = findIn? p nodes := by
  induction edited with
  | nil => rfl
  | putIn fails _ ih => rw [findIn?_cons, find?_eq_none_of_fails fails, Option.none_or, ih front]
  | takenOut fails _ ih => rw [findIn?_cons, find?_eq_none_of_fails fails, Option.none_or, ih front]
  | @kept behind node nodes changed _ ih =>
    rw [findIn?_cons, findIn?_cons]
    cases found : node.find? p with
    | some e => rfl
    | none => rw [ih (by simp [front, found])]
  | @inside behind tag attributes children others nodes changed outside _ _ ihInner ih =>
    have fails : p ⟨tag, attributes, children⟩ = false := by simpa [front] using outside
    have failsToo := (ignores tag attributes others children).trans fails
    rw [findIn?_cons, findIn?_cons, find?_element fails, find?_element failsToo, ihInner front]
    cases found : findIn? p children with
    | some e => rfl
    | none => rw [ih (by simp [front, found])]

theorem EditedBelow.find?_eq (ignores : IgnoresChildren p) {e changed : Element}
    (edited : EditedBelow p e changed) : changed.find? p = e.find? p := by
  cases edited with
  | below edited =>
    rw [Element.find?, Element.find?]
    exact edited.findIn?_eq ignores rfl

end

end NoteMarkup
