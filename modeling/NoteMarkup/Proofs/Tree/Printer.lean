import NoteMarkup.Proofs.Text.Entity
import NoteMarkup.Tree.Printer

/-!
# Markup of elements and of lists of nodes
-/

namespace NoteMarkup

def openingTag (tag : String) (attributes : List (String × String)) : String :=
  "<" ++ tag ++ printAttributes attributes ++ ">"

def closingTag (tag : String) : String :=
  "</" ++ tag ++ ">"

theorem Element.print_of_void {tag : String} (h : isVoidTag tag = true)
    (attributes : List (String × String)) (children : List Node) :
    Element.print ⟨tag, attributes, children⟩ = openingTag tag attributes := by
  rw [Element.print]
  exact if_pos h

theorem Element.print_of_not_void {tag : String} (h : isVoidTag tag = false)
    (attributes : List (String × String)) (children : List Node) :
    Element.print ⟨tag, attributes, children⟩ =
      openingTag tag attributes ++ printNodes children ++ closingTag tag := by
  rw [Element.print]
  simp [h, openingTag, closingTag, String.append_assoc]

theorem Element.exists_print_eq (e : Element) :
    ∃ after, e.print = openingTag e.tag e.attributes ++ after := by
  obtain ⟨tag, attributes, children⟩ := e
  cases void : isVoidTag tag with
  | true => exact ⟨"", by rw [Element.print_of_void void, String.append_empty]⟩
  | false =>
    refine ⟨printNodes children ++ closingTag tag, ?_⟩
    rw [Element.print_of_not_void void, String.append_assoc]

theorem Element.print_ne_empty (e : Element) : e.print ≠ "" := by
  obtain ⟨after, equal⟩ := e.exists_print_eq
  rw [equal]
  simp [openingTag]

theorem printNodes_append (nodes more : List Node) :
    printNodes (nodes ++ more) = printNodes nodes ++ printNodes more := by
  induction nodes with
  | nil => simp [printNodes]
  | cons node nodes ih => rw [List.cons_append, printNodes, printNodes, ih, String.append_assoc]

@[simp]
theorem printNodes_singleton (node : Node) : printNodes [node] = node.print := by
  simp [printNodes]

@[simp]
theorem printNodes_ofText (s : String) : printNodes (Node.ofText s) = Text.escape s := by
  unfold Node.ofText
  split
  · rename_i empty
    rw [String.isEmpty_iff.mp empty]
    rfl
  · rw [printNodes_singleton, Node.print]

theorem printNodes_eq_empty_iff {nodes : List Node} (h : .text "" ∉ nodes) :
    printNodes nodes = "" ↔ nodes = [] := by
  cases nodes with
  | nil => simp [printNodes]
  | cons node nodes =>
    have shown : node.print ≠ "" := by
      cases node with
      | element e => exact e.print_ne_empty
      | text s =>
        intro empty
        rw [Text.escape_eq_empty_iff.mp empty] at h
        exact h List.mem_cons_self
    simp [printNodes, shown]

end NoteMarkup
