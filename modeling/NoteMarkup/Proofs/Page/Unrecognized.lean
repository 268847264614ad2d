import NoteMarkup.Proofs.Page.Writer
import NoteMarkup.Proofs.Tree.Descendants

/-!
# Blocks of no known kind

A block of no known kind becomes what the blocks inside it become or, where they come to nothing,
its content.  With no block of a known kind inside, something is shown of it if any element of it
has content to show (`writeBlock_ne_empty_iff`).
-/

namespace NoteMarkup

mutual

theorem Element.renderBlock_eq_nil_iff [UrlReader] (options : Options) :
    ∀ {e : Element}, e.blockKind = .unrecognized →
      (∀ inner ∈ e.descendants, inner.blockKind = .unrecognized) →
      (e.renderBlock options = [] ↔
        ∀ holder ∈ (Node.element e).elements, holder.inlineContent options = [])
  | ⟨tag, attributes, children⟩, unknown, plain => by
    have nested := renderBlocks_eq_nil_iff options plain
    rw [Node.elements, List.forall_mem_cons, Element.descendants, ← nested, Element.renderBlock]
    simp only [unknown]
    cases renderBlocks options children with
    | nil => exact (and_iff_left rfl).symm
    | cons node nodes => simp

/-- Where no block is of a known kind, nothing is shown exactly if no element has content to show:
    each is looked at as a block, and its content stands in when the blocks below it fail. -/
theorem renderBlocks_eq_nil_iff [UrlReader] (options : Options) :
    ∀ {nodes : List Node}, (∀ inner ∈ descendantsOf nodes, inner.blockKind = .unrecognized) →
      (renderBlocks options nodes = [] ↔
        ∀ holder ∈ descendantsOf nodes, holder.inlineContent options = [])
  | [], _ => by simp [renderBlocks, descendantsOf]
  | node :: nodes, plain => by
    rw [descendantsOf] at plain
    obtain ⟨own, others⟩ := List.forall_mem_append.mp plain
    rw [renderBlocks, List.append_eq_nil_iff, descendantsOf, List.forall_mem_append,
      Node.renderBlock_eq_nil_iff options own, renderBlocks_eq_nil_iff options others]

theorem Node.renderBlock_eq_nil_iff [UrlReader] (options : Options) :
    ∀ {node : Node}, (∀ inner ∈ node.elements, inner.blockKind = .unrecognized) →
      (node.renderBlock options = [] ↔
        ∀ holder ∈ node.elements, holder.inlineContent options = [])
  | .element _, plain => by
    obtain ⟨unknown, below⟩ := List.forall_mem_cons.mp plain
    exact Element.renderBlock_eq_nil_iff options unknown below
  | .text _, _ => by simp [Node.renderBlock, Node.elements]

end

theorem Element.writeContent_eq_empty_iff [UrlReader] {options : Options} {e : Element} :
    e.writeContent options = "" ↔ e.inlineContent options = [] := by
  rw [e.writeContent_eq]
  exact printNodes_eq_empty_iff (text_empty_not_mem_renderInlines options e.editableContent)

theorem Element.writeBlock_eq_empty_iff [UrlReader] {options : Options} {e : Element} :
    e.writeBlock options = "" ↔ e.renderBlock options = [] := by
  have shown := text_empty_not_mem_renderBlocks options [.element e]
  rw [renderBlocks, renderBlocks, List.append_nil, Node.renderBlock] at shown
  rw [e.writeBlock_eq, printNodes_eq_empty_iff shown]

mutual

theorem Element.exists_text_of_textContent :
    ∀ {e : Element}, e.textContent ≠ "" →
      ∃ holder ∈ (Node.element e).elements, ∃ s ≠ "", .text s ∈ holder.children
  | ⟨tag, attributes, children⟩, h => by
    rw [Element.textContent] at h
    obtain ⟨s, nonempty, here | ⟨holder, below, here⟩⟩ := exists_text_of_textContentOf h
    · exact ⟨_, List.mem_cons_self, s, nonempty, here⟩
    · exact ⟨holder, List.mem_cons_of_mem _ below, s, nonempty, here⟩

/-- Text content comes from a text that is one of the nodes or stands in an element below them. -/
theorem exists_text_of_textContentOf :
    ∀ {nodes : List Node}, textContentOf nodes ≠ "" →
      ∃ s ≠ "", .text s ∈ nodes ∨ ∃ holder ∈ descendantsOf nodes, .text s ∈ holder.children
  | [], h => absurd rfl h
  | .text s :: nodes, h => by
    by_cases empty : s = ""
    · rw [textContentOf, Node.textContent, empty, String.empty_append] at h
      obtain ⟨t, nonempty, here | below⟩ := exists_text_of_textContentOf h
      · exact ⟨t, nonempty, .inl (List.mem_cons_of_mem _ here)⟩
      · exact ⟨t, nonempty, .inr below⟩
    · exact ⟨s, empty, .inl List.mem_cons_self⟩
  | .element e :: nodes, h => by
    by_cases empty : e.textContent = ""
    · rw [textContentOf, Node.textContent, empty, String.empty_append] at h
      obtain ⟨t, nonempty, here | ⟨holder, below, here⟩⟩ := exists_text_of_textContentOf h
      · exact ⟨t, nonempty, .inl (List.mem_cons_of_mem _ here)⟩
      · exact ⟨t, nonempty, .inr ⟨holder, List.mem_append_right _ below, here⟩⟩
    · obtain ⟨holder, inside, t, nonempty, here⟩ := Element.exists_text_of_textContent empty
      exact ⟨t, nonempty, .inr ⟨holder, List.mem_append_left _ inside, here⟩⟩

end

/-! ## Texts that are shown -/

theorem renderInlines_ne_nil_of_text [UrlReader] (options : Options) {s : String} (nonempty : s ≠ "") :
    ∀ {nodes : List Node}, .text s ∈ nodes → renderInlines options nodes ≠ []
  | node :: nodes, here, nothing => by
    rw [renderInlines, List.append_eq_nil_iff] at nothing
    cases here with
    | head =>
      rw [Node.renderInline, Node.ofText, if_neg (by simpa using nonempty)] at nothing
      cases nothing.1
    | tail _ here => exact renderInlines_ne_nil_of_text options nonempty here nothing.2

theorem Element.editableRegion?_eq_none_of_mem {e inner : Element}
    (noRegion : e.editableRegion? = none) (below : inner ∈ (Node.element e).elements) :
    inner.editableRegion? = none := by
  cases below with
  | head => exact noRegion
  | tail _ below =>
    rw [Element.editableRegion?, Element.find?_eq, List.find?_eq_none] at noRegion ⊢
    exact fun region inside =>
      noRegion region ((Element.sublist_descendants below).subset inside)

/-- Without an editable region below it, an element with text has itself or below it an element
    with content to show. -/
theorem Element.exists_inlineContent_ne_nil [UrlReader] (options : Options) {e : Element}
    (noRegion : e.editableRegion? = none) (hasText : e.textContent ≠ "") :
    ∃ holder ∈ (Node.element e).elements, holder.inlineContent options ≠ [] := by
  obtain ⟨holder, inside, s, nonempty, here⟩ := Element.exists_text_of_textContent hasText
  refine ⟨holder, inside, ?_⟩
  rw [Element.inlineContent, Element.editableContent,
    Element.editableRegion?_eq_none_of_mem noRegion inside, Option.getD_none]
  exact renderInlines_ne_nil_of_text options nonempty here

/-- With no block of a known kind below it, a block of no known kind is shown exactly if it has
    content to show or an element below it does: the content of the first editable region below
    the element, or the element's own where there is none.  So it is shown whenever it is, or has
    below it, an element with text and without a region. -/
theorem writeBlock_ne_empty_iff [UrlReader] (options : Options) {e : Element}
    (unknown : e.blockKind = .unrecognized)
    (plain : ∀ inner ∈ e.descendants, inner.blockKind = .unrecognized) :
    (e.writeBlock options ≠ "" ↔
      ∃ holder ∈ (Node.element e).elements, holder.writeContent options ≠ "") ∧
    ((∃ holder ∈ (Node.element e).elements,
      holder.editableRegion? = none ∧ holder.textContent ≠ "") → e.writeBlock options ≠ "") := by
  have shown : e.writeBlock options ≠ "" ↔
      ∃ holder ∈ (Node.element e).elements, holder.inlineContent options ≠ [] := by
    rw [ne_eq, Element.writeBlock_eq_empty_iff, Element.renderBlock_eq_nil_iff options unknown plain]
    simp
  constructor
  · simp only [shown, ne_eq, Element.writeContent_eq_empty_iff]
  · rintro ⟨holder, inside, noRegion, hasText⟩
    obtain ⟨inner, below, content⟩ := holder.exists_inlineContent_ne_nil options noRegion hasText
    refine shown.mpr ⟨inner, ?_, content⟩
    cases below with
    | head => exact inside
    | tail _ below => exact (Node.sublist_elements inside).subset below

def regionBlock : Element :=
  ⟨"div", [("data-type", "NodeFuture")],
    [.text "lost", .element ⟨"div", [("contenteditable", "true")], [.text "kept"]⟩]⟩

theorem writeBlock_ne_empty_iff_regionBlock :
    regionBlock.blockKind = .unrecognized ∧
    (∀ inner ∈ regionBlock.descendants, inner.blockKind = .unrecognized) ∧
    (regionBlock.writeBlock {} ≠ "" ↔
      ∃ holder ∈ (Node.element regionBlock).elements, holder.writeContent {} ≠ "") ∧
    regionBlock.writeBlock {} ≠ "" := by
  have unknown : regionBlock.blockKind = .unrecognized := by decide
  have plain : ∀ inner ∈ regionBlock.descendants, inner.blockKind = .unrecognized := by decide
  obtain ⟨shown, ofText⟩ := writeBlock_ne_empty_iff {} unknown plain
  have region : ∃ holder ∈ (Node.element regionBlock).elements,
      holder.editableRegion? = none ∧ holder.textContent ≠ "" :=
    ⟨⟨"div", [("contenteditable", "true")], [.text "kept"]⟩,
      List.mem_cons_of_mem _ List.mem_cons_self, rfl, by decide⟩
  exact ⟨unknown, plain, shown, ofText region⟩

def emptyRegion : Element :=
  ⟨"div", [("data-type", "NodeFuture")],
    [.text "text", .element ⟨"div", [("contenteditable", "true")], []⟩]⟩

/-- Nothing is shown of a block that has text, as its empty region stands in for it. -/
theorem writeBlock_emptyRegion :
    parseStrict "<div data-type=\"NodeFuture\">text<div contenteditable=\"true\"></div></div>" =
      .ok ⟨rootTag, [], [.element emptyRegion]⟩ ∧
    emptyRegion.blockKind = .unrecognized ∧
    (∀ inner ∈ emptyRegion.descendants, inner.blockKind = .unrecognized) ∧
    emptyRegion.textContent = "text" ∧ emptyRegion.writeBlock {} = "" ∧
    transform {} "<div data-type=\"NodeFuture\">text<div contenteditable=\"true\"></div></div>" =
      "" := by
  have wf : ∀ node ∈ [Node.element emptyRegion], node.WellFormed := by decide
  have printed : printNodes [.element emptyRegion] =
      "<div data-type=\"NodeFuture\">text<div contenteditable=\"true\"></div></div>" := by decide
  have reads := parseStrict_of_find?_eq_none wf (by decide)
  rw [printed] at reads
  refine ⟨reads, by decide, by decide, by decide, by decide, ?_⟩
  rw [transform_eq, parse_of_parseStrict_eq_ok reads]
  decide

end NoteMarkup
