import NoteMarkup.Tree

/-!
# Places of elements

Every element of a document with the elements around it, in document order.
-/

namespace NoteMarkup

/-- An element of a document, and the elements between it and the document, the innermost
    first. -/
structure ElementPlace where
  around : List Element
  element : Element

mutual

def Element.placesIn (around : List Element) : Element → List ElementPlace
  | ⟨tag, attributes, children⟩ => placesOf (⟨tag, attributes, children⟩ :: around) children

def placesOf (around : List Element) : List Node → List ElementPlace
  | [] => []
  | node :: nodes => node.places around ++ placesOf around nodes

def Node.places (around : List Element) : Node → List ElementPlace
  | .element e => ⟨around, e⟩ :: e.placesIn around
  | .text _ => []

end

/-- The elements of a document with their places.  What the document itself is, is not looked
    at. -/
def Element.places (root : Element) : List ElementPlace :=
  placesOf [] root.children

theorem placesOf_append (around : List Element) (nodes more : List Node) :
    placesOf around (nodes ++ more) = placesOf around nodes ++ placesOf around more := by
  induction nodes with
  | nil => rfl
  | cons node nodes ih => rw [List.cons_append, placesOf, placesOf, ih, List.append_assoc]

mutual

theorem Element.suffix_of_mem_placesIn {around : List Element} :
    ∀ e : Element, ∀ place ∈ e.placesIn around, e :: around <:+ place.around
  | ⟨_, _, children⟩ => by
    rw [Element.placesIn]
    exact suffix_of_mem_placesOf children

/-- Elements of nodes that stand in others stand in those too. -/
theorem suffix_of_mem_placesOf {around : List Element} :
    ∀ nodes : List Node, ∀ place ∈ placesOf around nodes, around <:+ place.around
  | [], _, h => by cases h
  | node :: nodes, place, h => by
    rw [placesOf] at h
    obtain h | h := List.mem_append.mp h
    · exact Node.suffix_of_mem_places node place h
    · exact suffix_of_mem_placesOf nodes place h

theorem Node.suffix_of_mem_places {around : List Element} :
    ∀ node : Node, ∀ place ∈ node.places around, around <:+ place.around
  | .text _, _, h => by cases h
  | .element e, place, h => by
    rw [Node.places] at h
    obtain rfl | h := List.mem_cons.mp h
    · exact List.suffix_rfl
    · exact (List.suffix_cons e around).trans (Element.suffix_of_mem_placesIn e place h)

end

end NoteMarkup
