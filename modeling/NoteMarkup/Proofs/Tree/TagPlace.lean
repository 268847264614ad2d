import NoteMarkup.Proofs.Token.Printed
import NoteMarkup.Proofs.Tree.Merged

/-!
# Places of opening tags

Where the opening tags of a list of nodes stand in its markup, in document order, and how many
elements each stands in.
-/

namespace NoteMarkup

structure TagPlace where
  tag : String
  attributes : List (String × String)
  /-- How many elements the element stands in. -/
  ancestors : Nat
  /-- How many characters stand in front of the tag. -/
  offset : Nat
  deriving DecidableEq

mutual

def Element.tagPlaces (ancestors offset : Nat) : Element → List TagPlace
  | ⟨tag, attributes, children⟩ =>
    ⟨tag, attributes, ancestors, offset⟩ ::
      if isVoidTag tag then []
      else tagPlacesOf (ancestors + 1) (offset + (openingTag tag attributes).length) children

def tagPlacesOf (ancestors offset : Nat) : List Node → List TagPlace
  | [] => []
  | node :: nodes =>
    node.tagPlaces ancestors offset ++ tagPlacesOf ancestors (offset + node.print.length) nodes

def Node.tagPlaces (ancestors offset : Nat) : Node → List TagPlace
  | .element e => e.tagPlaces ancestors offset
  | .text _ => []

end

/-- The element can have content, and it stands in as many elements as may be open. -/
def TagPlace.isTooDeep (place : TagPlace) : Bool :=
  !isVoidTag place.tag && place.ancestors == 512

mutual

theorem Element.print_eq_of_mem_tagPlaces {place : TagPlace} {ancestors offset : Nat} :
    ∀ {e : Element}, place ∈ e.tagPlaces ancestors offset →
      ∃ before after, e.print = before ++ openingTag place.tag place.attributes ++ after ∧
        place.offset = offset + before.length
  | ⟨tag, attributes, children⟩, h => by
    rw [Element.tagPlaces] at h
    cases hvoid : isVoidTag tag with
    | true =>
      rw [hvoid, if_pos rfl, List.mem_singleton] at h
      subst h
      rw [Element.print_of_void hvoid]
      exact ⟨"", "", by simp, by simp⟩
    | false =>
      rw [hvoid, if_neg Bool.false_ne_true] at h
      rw [Element.print_of_not_void hvoid]
      cases h with
      | head => exact ⟨"", printNodes children ++ closingTag tag, by simp [String.append_assoc], by simp⟩
      | tail _ h =>
        obtain ⟨before, after, hprint, hoffset⟩ := printNodes_eq_of_mem_tagPlacesOf h
        refine ⟨openingTag tag attributes ++ before, after ++ closingTag tag, ?_, ?_⟩
        · simp only [hprint, String.append_assoc]
        · rw [hoffset, String.length_append, Nat.add_assoc]

/-- At the place of a tag, that tag stands in the markup. -/
theorem printNodes_eq_of_mem_tagPlacesOf {place : TagPlace} {ancestors offset : Nat} :
    ∀ {nodes : List Node}, place ∈ tagPlacesOf ancestors offset nodes →
      ∃ before after, printNodes nodes = before ++ openingTag place.tag place.attributes ++ after ∧
        place.offset = offset + before.length
  | [], h => by cases h
  | node :: nodes, h => by
    rw [tagPlacesOf, List.mem_append] at h
    rw [printNodes]
    obtain h | h := h
    · obtain ⟨before, after, hprint, hoffset⟩ := Node.print_eq_of_mem_tagPlaces h
      exact ⟨before, after ++ printNodes nodes, by rw [hprint, String.append_assoc], hoffset⟩
    · obtain ⟨before, after, hprint, hoffset⟩ := printNodes_eq_of_mem_tagPlacesOf h
      refine ⟨node.print ++ before, after, ?_, ?_⟩
      · simp only [hprint, String.append_assoc]
      · rw [hoffset, String.length_append, Nat.add_assoc]

theorem Node.print_eq_of_mem_tagPlaces {place : TagPlace} {ancestors offset : Nat} :
    ∀ {node : Node}, place ∈ node.tagPlaces ancestors offset →
      ∃ before after, node.print = before ++ openingTag place.tag place.attributes ++ after ∧
        place.offset = offset + before.length
  | .element _, h => Element.print_eq_of_mem_tagPlaces h
  | .text _, h => by cases h

end

theorem tagPlacesOf_joinFront (ancestors offset : Nat) (node : Node) (nodes : List Node) :
    tagPlacesOf ancestors offset (joinFront node nodes) =
      node.tagPlaces ancestors offset ++
        tagPlacesOf ancestors (offset + node.print.length) nodes := by
  unfold joinFront
  split
  · simp [tagPlacesOf, Node.tagPlaces, Node.print, Text.escape_append, String.length_append,
      Nat.add_assoc]
  · rw [tagPlacesOf]

mutual

theorem Element.tagPlaces_merged (ancestors offset : Nat) :
    ∀ e : Element, e.merged.tagPlaces ancestors offset = e.tagPlaces ancestors offset
  | ⟨tag, attributes, children⟩ => by
    rw [Element.merged, Element.tagPlaces, Element.tagPlaces,
      tagPlacesOf_mergedOf (ancestors + 1) _ children]

/-- Merging texts leaves every tag at its place. -/
theorem tagPlacesOf_mergedOf (ancestors offset : Nat) :
    ∀ nodes : List Node,
      tagPlacesOf ancestors offset (mergedOf nodes) = tagPlacesOf ancestors offset nodes
  | [] => rfl
  | node :: nodes => by
    rw [mergedOf, tagPlacesOf_joinFront, Node.tagPlaces_merged ancestors offset node,
      Node.print_merged, tagPlacesOf_mergedOf ancestors _ nodes, tagPlacesOf]

theorem Node.tagPlaces_merged (ancestors offset : Nat) :
    ∀ node : Node, node.merged.tagPlaces ancestors offset = node.tagPlaces ancestors offset
  | .element e => Element.tagPlaces_merged ancestors offset e
  | .text _ => rfl

end

/-! ## Depth -/

mutual

theorem Element.ancestors_lt_of_forall {ancestors offset : Nat} (hle : ancestors ≤ 512) :
    ∀ {e : Element}, (∀ place ∈ e.tagPlaces ancestors offset, place.isTooDeep = false) →
      ∀ place ∈ e.tagPlaces ancestors offset, isVoidTag place.tag = false → place.ancestors < 512
  | ⟨tag, attributes, children⟩, hnone, place, h, hplace => by
    have hown := hnone ⟨tag, attributes, ancestors, offset⟩ (by simp [Element.tagPlaces])
    rw [Element.tagPlaces] at h hnone
    cases hvoid : isVoidTag tag with
    | true =>
      rw [hvoid, if_pos rfl, List.mem_singleton] at h
      subst h
      exact absurd hplace (by simp [hvoid])
    | false =>
      have hlt : ancestors < 512 := by
        simp [TagPlace.isTooDeep, hvoid] at hown
        omega
      rw [hvoid, if_neg Bool.false_ne_true] at h hnone
      cases h with
      | head => exact hlt
      | tail _ h =>
        exact ancestors_lt_of_forall hlt (fun other ho => hnone other (List.mem_cons_of_mem _ ho))
          place h hplace

/-- Where no element that can have content stands in exactly 512 others, none stands deeper. -/
theorem ancestors_lt_of_forall {ancestors offset : Nat} (hle : ancestors ≤ 512) :
    ∀ {nodes : List Node},
      (∀ place ∈ tagPlacesOf ancestors offset nodes, place.isTooDeep = false) →
      ∀ place ∈ tagPlacesOf ancestors offset nodes, isVoidTag place.tag = false →
        place.ancestors < 512
  | [], _, _, h, _ => by cases h
  | node :: nodes, hnone, place, h, hplace => by
    rw [tagPlacesOf] at hnone h
    obtain h | h := List.mem_append.mp h
    · exact Node.ancestors_lt_of_forall hle
        (fun other ho => hnone other (List.mem_append_left _ ho)) place h hplace
    · exact ancestors_lt_of_forall hle
        (fun other ho => hnone other (List.mem_append_right _ ho)) place h hplace

theorem Node.ancestors_lt_of_forall {ancestors offset : Nat} (hle : ancestors ≤ 512) :
    ∀ {node : Node}, (∀ place ∈ node.tagPlaces ancestors offset, place.isTooDeep = false) →
      ∀ place ∈ node.tagPlaces ancestors offset, isVoidTag place.tag = false →
        place.ancestors < 512
  | .element _ => Element.ancestors_lt_of_forall hle
  | .text _ => fun _ _ h => by cases h

end

end NoteMarkup
