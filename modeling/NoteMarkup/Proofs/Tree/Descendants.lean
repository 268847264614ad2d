import NoteMarkup.Proofs.Tree.WellFormed
import NoteMarkup.Tree.Printer
import NoteMarkup.Tree.Search

/-!
# Elements below an element

Searching an element finds the first of its descendants, and removing a tag removes it at any depth
and leaves well-formed nodes.
-/

namespace NoteMarkup

theorem mem_descendantsOf {e : Element} {nodes : List Node} :
    e ∈ descendantsOf nodes ↔ ∃ node ∈ nodes, e ∈ node.elements := by
  induction nodes with
  | nil => simp [descendantsOf]
  | cons node nodes ih => simp [descendantsOf, ih]

theorem Node.WellFormed.of_mem_elements {node : Node} (wf : node.WellFormed) :
    ∀ e ∈ node.elements, (Node.element e).WellFormed := by
  induction wf with
  | text => intro e h; cases h
  | element named void inner ih =>
    intro e h
    cases h with
    | head => exact .element named void inner
    | tail _ h =>
      obtain ⟨node, member, h⟩ := mem_descendantsOf.mp h
      exact ih node member e h

theorem Element.descendants_eq (e : Element) : e.descendants = descendantsOf e.children := by
  cases e
  rw [Element.descendants]

theorem Element.textContent_eq (e : Element) : e.textContent = textContentOf e.children := by
  cases e
  rw [Element.textContent]

mutual

theorem Element.sublist_descendants :
    ∀ {e outer : Element}, outer ∈ e.descendants → outer.descendants.Sublist e.descendants
  | ⟨_, _, children⟩, outer, h => by
    rw [Element.descendants] at h ⊢
    exact sublist_descendantsOf h

/-- What is below an element that is below others is below them, in the same order. -/
theorem sublist_descendantsOf :
    ∀ {nodes : List Node} {outer : Element}, outer ∈ descendantsOf nodes →
      outer.descendants.Sublist (descendantsOf nodes)
  | [], _, h => by cases h
  | node :: nodes, outer, h => by
    rw [descendantsOf] at h ⊢
    obtain h | h := List.mem_append.mp h
    · exact (Node.sublist_elements h).trans (List.sublist_append_left _ _)
    · exact (sublist_descendantsOf h).trans (List.sublist_append_right _ _)

theorem Node.sublist_elements :
    ∀ {node : Node} {outer : Element}, outer ∈ node.elements →
      outer.descendants.Sublist node.elements
  | .element e, outer, h => by
    cases h with
    | head => exact List.sublist_cons_self _ _
    | tail _ h => exact (Element.sublist_descendants h).trans (List.sublist_cons_self _ _)
  | .text _, _, h => by cases h

end

/-! ## Searching -/

mutual

/-- Searching goes through the descendants in document order. -/
theorem Element.find?_eq (p : Element → Bool) :
    ∀ e : Element, e.find? p = e.descendants.find? p
  | ⟨_, _, children⟩ => by rw [Element.find?, Element.descendants, findIn?_eq p children]

theorem findIn?_eq (p : Element → Bool) :
    ∀ nodes : List Node, findIn? p nodes = (descendantsOf nodes).find? p
  | [] => rfl
  | node :: nodes => by
    rw [findIn?, descendantsOf, List.find?_append, Node.find?_eq p node, findIn?_eq p nodes]
    cases node.elements.find? p <;> rfl

theorem Node.find?_eq (p : Element → Bool) :
    ∀ node : Node, node.find? p = node.elements.find? p
  | .element e => by
    rw [Node.find?, Node.elements, List.find?_cons, Element.find?_eq p e]
    cases p e <;> rfl
  | .text _ => rfl

end

/-- The content of a block stands below it, in its editable region or in the block itself. -/
theorem Element.sublist_editableContent (e : Element) :
    (descendantsOf e.editableContent).Sublist e.descendants := by
  rw [Element.editableContent, Element.editableRegion?, Element.find?_eq,
    ← Element.descendants_eq]
  cases found : e.descendants.find? Element.isEditable with
  | none => exact List.Sublist.refl _
  | some region => exact Element.sublist_descendants (List.mem_of_find?_eq_some found)

/-! ## Removing elements -/

@[simp]
theorem Element.tag_without (tag : String) (e : Element) : (e.without tag).tag = e.tag := by
  cases e
  rw [Element.without]

mutual

theorem Element.tag_ne_of_mem_descendants_without {tag : String} :
    ∀ e : Element, ∀ inner ∈ (e.without tag).descendants, inner.tag ≠ tag
  | ⟨own, attributes, children⟩, inner, h => by
    rw [Element.without, Element.descendants] at h
    exact tag_ne_of_mem_descendantsOf_withoutIn children inner h

theorem tag_ne_of_mem_descendantsOf_withoutIn {tag : String} :
    ∀ nodes : List Node, ∀ inner ∈ descendantsOf (withoutIn tag nodes), inner.tag ≠ tag
  | [], _, h => by cases h
  | node :: nodes, inner, h => by
    rw [withoutIn] at h
    obtain ⟨other, member, h⟩ := mem_descendantsOf.mp h
    obtain member | member := List.mem_append.mp member
    · exact Node.tag_ne_of_mem_elements_without node other member inner h
    · exact tag_ne_of_mem_descendantsOf_withoutIn nodes inner
        (mem_descendantsOf.mpr ⟨other, member, h⟩)

theorem Node.tag_ne_of_mem_elements_without {tag : String} :
    ∀ node : Node, ∀ other ∈ node.without tag, ∀ inner ∈ other.elements, inner.tag ≠ tag
  | .text _, other, h, inner, hinner => by
    rw [Node.without, List.mem_singleton] at h
    rw [h] at hinner
    cases hinner
  | .element e, other, h, inner, hinner => by
    rw [Node.without] at h
    split at h
    · cases h
    · rename_i kept
      rw [List.mem_singleton.mp h] at hinner
      cases hinner with
      | head => simpa using kept
      | tail _ hinner => exact Element.tag_ne_of_mem_descendants_without e inner hinner

end

mutual

theorem Element.wellFormed_without (tag : String) :
    ∀ {e : Element}, (Node.element e).WellFormed → (Node.element (e.without tag)).WellFormed
  | ⟨own, attributes, children⟩, .element named void inner => by
    rw [Element.without]
    refine .element ⟨named.tag, named.names, named.distinct⟩ ?_ (wellFormed_withoutIn tag inner)
    intro h
    rw [void h, withoutIn]

theorem wellFormed_withoutIn (tag : String) :
    ∀ {nodes : List Node}, (∀ node ∈ nodes, node.WellFormed) →
      ∀ node ∈ withoutIn tag nodes, node.WellFormed
  | [], _, _, h => by cases h
  | first :: nodes, wf, node, h => by
    rw [withoutIn] at h
    obtain ⟨wfFirst, wfRest⟩ := List.forall_mem_cons.mp wf
    obtain h | h := List.mem_append.mp h
    · exact Node.wellFormed_of_mem_without tag wfFirst node h
    · exact wellFormed_withoutIn tag wfRest node h

theorem Node.wellFormed_of_mem_without (tag : String) :
    ∀ {first : Node}, first.WellFormed → ∀ node ∈ first.without tag, node.WellFormed
  | .text _, wf, node, h => by
    rw [Node.without, List.mem_singleton] at h
    rw [h]
    exact wf
  | .element e, wf, node, h => by
    rw [Node.without] at h
    split at h
    · cases h
    · rw [List.mem_singleton.mp h]
      exact Element.wellFormed_without tag wf

end

end NoteMarkup
