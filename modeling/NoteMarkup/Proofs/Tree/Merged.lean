import NoteMarkup.Proofs.Text.Entity
import NoteMarkup.Proofs.Tree.WellFormed
import NoteMarkup.Tree.Printer

/-!
# Merging texts that stand side by side

Markup does not show where one text ends and the next begins, so reading finds each run of
texts as one.  `mergedOf nodes = mergedOf others` says that two lists of nodes differ at most in
how texts are split.
-/

namespace NoteMarkup

/-- The nodes with one more in front, which is joined to the first if both are texts. -/
def joinFront : Node → List Node → List Node
  | .text s, .text t :: nodes => .text (s ++ t) :: nodes
  | node, nodes => node :: nodes

mutual

def Element.merged : Element → Element
  | ⟨tag, attributes, children⟩ => ⟨tag, attributes, mergedOf children⟩

/-- The nodes with every run of texts concatenated, at any depth. -/
def mergedOf : List Node → List Node
  | [] => []
  | node :: nodes => joinFront node.merged (mergedOf nodes)

def Node.merged : Node → Node
  | .element e => .element e.merged
  | .text s => .text s

end

@[simp]
theorem Element.tag_merged (e : Element) : e.merged.tag = e.tag := by
  cases e
  rfl

@[simp]
theorem Element.attributes_merged (e : Element) : e.merged.attributes = e.attributes := by
  cases e
  rfl

@[simp]
theorem Element.children_merged (e : Element) : e.merged.children = mergedOf e.children := by
  cases e
  rfl

theorem joinFront_of_isText_eq_false {node : Node} {nodes : List Node}
    (h : node.isText = true → ∀ first ∈ nodes.head?, first.isText = false) :
    joinFront node nodes = node :: nodes := by
  cases node with
  | element e => rfl
  | text s =>
    cases nodes with
    | nil => rfl
    | cons first nodes =>
      cases first with
      | element e => rfl
      | text t => simp [Node.isText] at h

/-- What is put together from one node after the other, and from a text piece by piece, does not
    depend on whether two texts are joined. -/
theorem append_joinFront {α : Type} [Append α] [Std.Associative (HAppend.hAppend : α → α → α)]
    (ofNodes : List Node → α) (ofNode : Node → α)
    (cons : ∀ node nodes, ofNodes (node :: nodes) = ofNode node ++ ofNodes nodes)
    (texts : ∀ s t, ofNode (.text (s ++ t)) = ofNode (.text s) ++ ofNode (.text t)) (node : Node)
    (nodes : List Node) : ofNodes (joinFront node nodes) = ofNode node ++ ofNodes nodes := by
  unfold joinFront
  split
  · rw [cons, cons, texts]
    exact Std.Associative.assoc _ _ _
  · rw [cons]

theorem printNodes_joinFront (node : Node) (nodes : List Node) :
    printNodes (joinFront node nodes) = node.print ++ printNodes nodes :=
  append_joinFront printNodes Node.print (fun _ _ => rfl) Text.escape_append node nodes

theorem mem_joinFront {node other : Node} {nodes : List Node} (h : other ∈ joinFront node nodes) :
    other = node ∨ other ∈ nodes ∨
      ∃ s t, node = .text s ∧ .text t ∈ nodes ∧ other = .text (s ++ t) := by
  unfold joinFront at h
  split at h
  · cases h with
    | head => exact .inr (.inr ⟨_, _, rfl, List.mem_cons_self, rfl⟩)
    | tail _ h => exact .inr (.inl (List.mem_cons_of_mem _ h))
  · cases h with
    | head => exact .inl rfl
    | tail _ h => exact .inr (.inl h)

theorem Apart.joinFront {nodes : List Node} (apart : Apart nodes) (node : Node) :
    Apart (joinFront node nodes) := by
  cases nodes with
  | nil =>
    rw [joinFront_of_isText_eq_false (by simp)]
    exact List.isChain_singleton node
  | cons first nodes =>
    cases node with
    | element e => exact List.isChain_cons_cons.mpr ⟨fun h => Bool.noConfusion h, apart⟩
    | text s =>
      cases first with
      | element e => exact List.isChain_cons_cons.mpr ⟨fun _ => rfl, apart⟩
      | text t =>
        cases nodes with
        | nil => exact List.isChain_singleton _
        | cons second nodes =>
          obtain ⟨hfirst, hrest⟩ := List.isChain_cons_cons.mp apart
          exact List.isChain_cons_cons.mpr ⟨hfirst, hrest⟩

/-! ## Merging -/

mutual

theorem Element.print_merged : ∀ e : Element, e.merged.print = e.print
  | ⟨tag, attributes, children⟩ => by
    simp only [Element.merged, Element.print, printNodes_mergedOf children]

/-- Merging texts does not change the markup. -/
theorem printNodes_mergedOf : ∀ nodes : List Node, printNodes (mergedOf nodes) = printNodes nodes
  | [] => rfl
  | node :: nodes => by
    rw [mergedOf, printNodes_joinFront, Node.print_merged node, printNodes_mergedOf nodes,
      printNodes]

theorem Node.print_merged : ∀ node : Node, node.merged.print = node.print
  | .element e => by simp only [Node.merged, Node.print, Element.print_merged e]
  | .text _ => rfl

end

mutual

/-- No two texts stand side by side in merged nodes. -/
theorem separated_mergedOf : ∀ nodes : List Node, Separated (mergedOf nodes)
  | [] => ⟨List.isChain_nil, fun _ h => by cases h⟩
  | node :: nodes => by
    obtain ⟨apart, inner⟩ := separated_mergedOf nodes
    refine ⟨apart.joinFront node.merged, fun other h => ?_⟩
    obtain rfl | h | ⟨s, t, -, -, rfl⟩ := mem_joinFront h
    · exact Node.separated_merged node
    · exact inner other h
    · exact .text

theorem Node.separated_merged : ∀ node : Node, node.merged.Separated
  | .element ⟨_, _, children⟩ => by
    obtain ⟨apart, inner⟩ := separated_mergedOf children
    exact .element apart inner
  | .text _ => .text

end

mutual

theorem wellFormed_mergedOf : ∀ {nodes : List Node}, (∀ node ∈ nodes, node.WellFormed) →
    ∀ node ∈ mergedOf nodes, node.WellFormed
  | [], _, _, h => by cases h
  | node :: nodes, wf, other, h => by
    have rest := wellFormed_mergedOf fun n hn => wf n (List.mem_cons_of_mem _ hn)
    obtain rfl | h | ⟨s, t, -, ht, rfl⟩ := mem_joinFront h
    · exact (wf node List.mem_cons_self).merged
    · exact rest other h
    · cases rest _ ht with
      | text nonempty => exact .text (by simp [String.append_eq_empty_iff, nonempty])

theorem Node.WellFormed.merged : ∀ {node : Node}, node.WellFormed → node.merged.WellFormed
  | .element ⟨tag, attributes, children⟩, .element named void inner => by
    refine .element ⟨named.tag, named.names, named.distinct⟩ (fun h => ?_) (wellFormed_mergedOf inner)
    rw [void h, mergedOf]
  | .text _, wf => wf

end

mutual

/-- Merging changes nothing where no two texts stand side by side. -/
theorem mergedOf_of_separated : ∀ {nodes : List Node}, Separated nodes → mergedOf nodes = nodes
  | [], _ => rfl
  | node :: nodes, ⟨apart, inner⟩ => by
    have rest : Separated nodes :=
      ⟨List.IsChain.tail apart, fun n hn => inner n (List.mem_cons_of_mem _ hn)⟩
    rw [mergedOf, Node.merged_of_separated (inner node List.mem_cons_self),
      mergedOf_of_separated rest]
    refine joinFront_of_isText_eq_false fun htext first hfirst => ?_
    cases nodes with
    | nil => cases hfirst
    | cons second nodes =>
      cases hfirst
      exact (List.isChain_cons_cons.mp apart).1 htext

theorem Node.merged_of_separated : ∀ {node : Node}, node.Separated → node.merged = node
  | .element ⟨tag, attributes, children⟩, .element apart inner => by
    rw [Node.merged, Element.merged, mergedOf_of_separated ⟨apart, inner⟩]
  | .text _, _ => rfl

end

theorem joinFront_joinFront_text (s t : String) (nodes : List Node) :
    joinFront (.text s) (joinFront (.text t) nodes) = joinFront (.text (s ++ t)) nodes := by
  cases nodes with
  | nil => rfl
  | cons first nodes =>
    cases first with
    | element e => rfl
    | text u => simp [joinFront, String.append_assoc]

/-- Merging goes from the last node to the first. -/
theorem mergedOf_append_congr {front nodes others : List Node} (h : mergedOf nodes = mergedOf others) :
    mergedOf (front ++ nodes) = mergedOf (front ++ others) := by
  induction front with
  | nil => exact h
  | cons node front ih => rw [List.cons_append, List.cons_append, mergedOf, mergedOf, ih]

theorem Node.ofText_append {s : String} (nonempty : s ≠ "") (pending : String) :
    Node.ofText (pending ++ s) = [.text (pending ++ s)] := by
  have both : pending ++ s ≠ "" := by simp [nonempty]
  rw [Node.ofText, if_neg (by simpa using both)]

theorem mergedOf_ofText_append {s : String} (nonempty : s ≠ "") (pending : String)
    (nodes : List Node) :
    mergedOf (Node.ofText (pending ++ s) ++ nodes) =
      mergedOf (Node.ofText pending ++ .text s :: nodes) := by
  rw [Node.ofText_append nonempty, List.singleton_append]
  by_cases none : pending = ""
  · rw [none, String.empty_append]
    rfl
  · rw [Node.ofText, if_neg (by simpa using none), List.singleton_append, mergedOf, mergedOf,
      mergedOf, Node.merged, Node.merged, Node.merged, joinFront_joinFront_text]

theorem mergedOf_element_congr {tag : String} {attributes : List (String × String)}
    {children content nodes others : List Node} (inner : mergedOf children = mergedOf content)
    (behind : mergedOf nodes = mergedOf others) :
    mergedOf (.element ⟨tag, attributes, children⟩ :: nodes) =
      mergedOf (.element ⟨tag, attributes, content⟩ :: others) := by
  rw [mergedOf, mergedOf, Node.merged, Node.merged, Element.merged, Element.merged, inner, behind]

theorem joinFront_ne_nil (node : Node) (nodes : List Node) : joinFront node nodes ≠ [] := by
  unfold joinFront
  split <;> exact List.cons_ne_nil _ _

theorem eq_nil_of_mergedOf {nodes : List Node} (merged : mergedOf nodes = []) : nodes = [] := by
  cases nodes with
  | nil => rfl
  | cons node nodes => exact absurd merged (joinFront_ne_nil _ _)

/-- Merging leaves a childless element only where there was nothing else. -/
theorem eq_of_mergedOf_childless {nodes : List Node} {tag : String}
    {attributes : List (String × String)}
    (merged : mergedOf nodes = [.element ⟨tag, attributes, []⟩]) :
    nodes = [.element ⟨tag, attributes, []⟩] := by
  cases nodes with
  | nil => cases merged
  | cons node nodes =>
    rw [mergedOf] at merged
    cases node with
    | text s =>
      unfold joinFront at merged
      split at merged
      · cases (List.cons.inj merged).1
      · cases (List.cons.inj merged).1
    | element e =>
      obtain ⟨ownTag, own, children⟩ := e
      obtain ⟨same, others⟩ := List.cons.inj merged
      cases eq_nil_of_mergedOf others
      rw [Node.merged, Element.merged, Node.element.injEq, Element.mk.injEq] at same
      obtain ⟨rfl, rfl, inner⟩ := same
      rw [eq_nil_of_mergedOf inner]

end NoteMarkup
