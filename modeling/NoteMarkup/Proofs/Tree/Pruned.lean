import NoteMarkup.Proofs.Tree.Descendants
import NoteMarkup.Proofs.Tree.TagPlace

/-!
# Taking elements out of a tree

`Pruned` is what is left of a list of nodes when the elements with one tag are taken out, at any
depth and with everything that stands in them.  Nothing that is left stands deeper than before
(`Pruned.covers`).
-/

namespace NoteMarkup

/-- The second list is the first without the elements that have this tag and all that stands in
    them, at any depth, and otherwise the same. -/
inductive Pruned (tag : String) : List Node → List Node → Prop where
  | nil : Pruned tag [] []
  | text (s : String) {nodes kept : List Node} (behind : Pruned tag nodes kept) :
      Pruned tag (.text s :: nodes) (.text s :: kept)
  | removed {attributes : List (String × String)} {children nodes kept : List Node}
      (behind : Pruned tag nodes kept) :
      Pruned tag (.element ⟨tag, attributes, children⟩ :: nodes) kept
  | element {own : String} {attributes : List (String × String)}
      {children inner nodes kept : List Node} (other : own ≠ tag)
      (below : Pruned tag children inner) (behind : Pruned tag nodes kept) :
      Pruned tag (.element ⟨own, attributes, children⟩ :: nodes)
        (.element ⟨own, attributes, inner⟩ :: kept)

theorem pruned_withoutIn (tag : String) : ∀ nodes : List Node, Pruned tag nodes (withoutIn tag nodes)
  | [] => .nil
  | .text s :: nodes => .text s (pruned_withoutIn tag nodes)
  | .element ⟨own, attributes, children⟩ :: nodes => by
    have behind := pruned_withoutIn tag nodes
    rw [withoutIn, Node.without]
    by_cases same : own = tag
    · subst same
      rw [if_pos (beq_self_eq_true _)]
      exact .removed behind
    · rw [if_neg (by simpa using same), Element.without]
      exact .element same (pruned_withoutIn tag children) behind

theorem Pruned.eq_withoutIn {tag : String} {nodes kept : List Node} (pruned : Pruned tag nodes kept) :
    kept = withoutIn tag nodes := by
  induction pruned with
  | nil => rfl
  | text s behind ih => rw [ih, withoutIn, Node.without, List.singleton_append]
  | removed behind ih => rw [ih, withoutIn, Node.without, if_pos (beq_self_eq_true _), List.nil_append]
  | element other below behind ihBelow ih =>
    rw [ihBelow, ih, withoutIn, Node.without, if_neg (by simpa using other), Element.without,
      List.singleton_append]

theorem pruned_iff {tag : String} {nodes kept : List Node} :
    Pruned tag nodes kept ↔ kept = withoutIn tag nodes :=
  ⟨Pruned.eq_withoutIn, fun equal => equal ▸ pruned_withoutIn tag nodes⟩

/-! ## Depth -/

/-- For each of the other tags there is one of these with the same name that stands in as many
    elements. -/
def Covers (places others : List TagPlace) : Prop :=
  ∀ other ∈ others, ∃ place ∈ places, place.tag = other.tag ∧ place.ancestors = other.ancestors

theorem Covers.append {places others more moreOthers : List TagPlace} (front : Covers places others)
    (behind : Covers more moreOthers) : Covers (places ++ more) (others ++ moreOthers) := by
  intro other member
  obtain member | member := List.mem_append.mp member
  · obtain ⟨place, inside, same⟩ := front other member
    exact ⟨place, List.mem_append_left _ inside, same⟩
  · obtain ⟨place, inside, same⟩ := behind other member
    exact ⟨place, List.mem_append_right _ inside, same⟩

theorem covers_nil (places : List TagPlace) : Covers places [] :=
  fun _ h => (List.not_mem_nil h).elim

theorem Covers.element {own : String} {attributes : List (String × String)}
    {children inner : List Node} {ancestors : Nat} (offset shifted : Nat)
    (below : ∀ offset shifted, Covers (tagPlacesOf (ancestors + 1) offset children)
      (tagPlacesOf (ancestors + 1) shifted inner)) :
    Covers (Element.tagPlaces ancestors offset ⟨own, attributes, children⟩)
      (Element.tagPlaces ancestors shifted ⟨own, attributes, inner⟩) := by
  have top : Covers [⟨own, attributes, ancestors, offset⟩] [⟨own, attributes, ancestors, shifted⟩] := by
    intro other member
    rw [List.mem_singleton.mp member]
    exact ⟨_, List.mem_cons_self, rfl, rfl⟩
  rw [Element.tagPlaces, Element.tagPlaces]
  cases isVoidTag own with
  | true => exact top
  | false => exact top.append (below _ _)

/-- Every element that is left stands in as many elements as before. -/
theorem Pruned.covers {tag : String} {nodes kept : List Node} (pruned : Pruned tag nodes kept) :
    ∀ {ancestors : Nat} (offset shifted : Nat),
      Covers (tagPlacesOf ancestors offset nodes) (tagPlacesOf ancestors shifted kept) := by
  induction pruned with
  | nil => exact fun _ _ => covers_nil _
  | text s behind ih =>
    intro ancestors offset shifted
    rw [tagPlacesOf, tagPlacesOf]
    exact ih _ _
  | removed behind ih =>
    intro ancestors offset shifted
    rw [tagPlacesOf]
    exact (covers_nil _).append (ih _ shifted)
  | element other below behind ihBelow ih =>
    intro ancestors offset shifted
    rw [tagPlacesOf, tagPlacesOf]
    exact (Covers.element offset shifted fun _ _ => ihBelow _ _).append (ih _ _)

theorem Element.covers_without (tag : String) {ancestors : Nat} (offset shifted : Nat) (e : Element) :
    Covers (tagPlacesOf ancestors offset [.element e])
      (tagPlacesOf ancestors shifted [.element (e.without tag)]) := by
  obtain ⟨own, attributes, children⟩ := e
  have covers : Covers (Element.tagPlaces ancestors offset ⟨own, attributes, children⟩)
      (Element.tagPlaces ancestors shifted ⟨own, attributes, withoutIn tag children⟩) :=
    Covers.element offset shifted fun _ _ => (pruned_withoutIn tag children).covers _ _
  rw [Element.without]
  exact covers.append (covers_nil [])

theorem Covers.ancestors_lt {places others : List TagPlace} (covers : Covers places others)
    {bound : Nat}
    (shallow : ∀ place ∈ places, isVoidTag place.tag = false → place.ancestors < bound) :
    ∀ other ∈ others, isVoidTag other.tag = false → other.ancestors < bound := by
  intro other member notVoid
  obtain ⟨place, inside, tag, ancestors⟩ := covers other member
  rw [← ancestors]
  exact shallow place inside (tag ▸ notVoid)

mutual

theorem Element.without_eq_self {tag : String} :
    ∀ {e : Element}, (∀ inner ∈ e.descendants, inner.tag ≠ tag) → e.without tag = e
  | ⟨own, attributes, children⟩, others => by
    rw [Element.descendants] at others
    rw [Element.without, withoutIn_eq_self others]

theorem withoutIn_eq_self {tag : String} :
    ∀ {nodes : List Node}, (∀ inner ∈ descendantsOf nodes, inner.tag ≠ tag) →
      withoutIn tag nodes = nodes
  | [], _ => rfl
  | node :: nodes, others => by
    rw [descendantsOf] at others
    obtain ⟨own, behind⟩ := List.forall_mem_append.mp others
    rw [withoutIn, Node.without_eq_self own, withoutIn_eq_self behind, List.singleton_append]

theorem Node.without_eq_self {tag : String} :
    ∀ {node : Node}, (∀ inner ∈ node.elements, inner.tag ≠ tag) → node.without tag = [node]
  | .text _, _ => rfl
  | .element e, others => by
    obtain ⟨own, below⟩ := List.forall_mem_cons.mp others
    rw [Node.without, if_neg (by simpa using own), Element.without_eq_self below]

end

theorem descendantsOf_joinFront (node : Node) (nodes : List Node) :
    descendantsOf (joinFront node nodes) = node.elements ++ descendantsOf nodes :=
  append_joinFront descendantsOf Node.elements (fun _ _ => rfl) (fun _ _ => rfl) node nodes

mutual

theorem Element.descendants_merged :
    ∀ e : Element, e.merged.descendants = e.descendants.map Element.merged
  | ⟨_, _, children⟩ => by
    rw [Element.merged, Element.descendants, Element.descendants, descendantsOf_mergedOf children]

theorem descendantsOf_mergedOf :
    ∀ nodes : List Node, descendantsOf (mergedOf nodes) = (descendantsOf nodes).map Element.merged
  | [] => rfl
  | node :: nodes => by
    rw [mergedOf, descendantsOf_joinFront, descendantsOf, List.map_append,
      Node.elements_merged node, descendantsOf_mergedOf nodes]

theorem Node.elements_merged :
    ∀ node : Node, node.merged.elements = node.elements.map Element.merged
  | .text _ => rfl
  | .element e => by
    rw [Node.merged, Node.elements, Node.elements, List.map_cons, Element.descendants_merged e]

end

theorem Element.map_tag_descendants_merged (e : Element) :
    e.merged.descendants.map Element.tag = e.descendants.map Element.tag := by
  rw [e.descendants_merged, List.map_map]
  exact List.map_congr_left fun inner _ => inner.tag_merged

end NoteMarkup
