import NoteMarkup.Proofs.Page.Writer
import NoteMarkup.Proofs.Tree.Descendants
import NoteMarkup.Proofs.Tree.Parsed

/-!
# Pages are well-formed

The page of any note can be read again, and reading gives back the tree that was written.

- `pageMarkup_eq_printNodes` says that a page without tables follows the schema;
- `parseStrict_transform` is about reading the page of any note.
-/

namespace NoteMarkup

def containerTags : List String :=
  headingTags ++ formattingTags ++
    ["p", "blockquote", "ul", "ol", "li", "pre", "a", "span", "sup"]

def leafTags : List String := ["br", "img"]

def pageAttributes : List (List String) :=
  [[], ["id"], ["href"], ["class"], ["class", "data-subtype"], ["src", "alt", "title"],
    ["src", "title", "style"]]

theorem isTagName_of_mem : ∀ tag ∈ containerTags ++ leafTags, isTagName tag = true := by
  decide

theorem isVoidTag_of_mem_containerTags : ∀ tag ∈ containerTags, isVoidTag tag = false := by
  decide

theorem pageAttributes_kept :
    ∀ names ∈ pageAttributes, (∀ name ∈ names, isAttributeName name = true) ∧ names.Nodup := by
  decide

/-- Everything below the node has a tag and attributes that stand on pages, and no text is
    empty. -/
inductive IsPagePart : Node → Prop where
  | text {s : String} (nonempty : s ≠ "") : IsPagePart (.text s)
  | container {tag : String} {attributes : List (String × String)} {children : List Node}
      (known : tag ∈ containerTags) (names : attributes.map Prod.fst ∈ pageAttributes)
      (inner : ∀ node ∈ children, IsPagePart node) :
      IsPagePart (.element ⟨tag, attributes, children⟩)
  | leaf {tag : String} {attributes : List (String × String)} (known : tag ∈ leafTags)
      (names : attributes.map Prod.fst ∈ pageAttributes) :
      IsPagePart (.element ⟨tag, attributes, []⟩)

theorem Element.wellNamed_of_mem {tag : String} {attributes : List (String × String)}
    {children : List Node} (known : tag ∈ containerTags ++ leafTags)
    (names : attributes.map Prod.fst ∈ pageAttributes) :
    Element.WellNamed ⟨tag, attributes, children⟩ := by
  obtain ⟨kept, distinct⟩ := pageAttributes_kept _ names
  refine ⟨isTagName_of_mem tag known, fun attr h => ?_, distinct⟩
  exact kept attr.1 (List.mem_map_of_mem h)

theorem IsPagePart.wellFormed {node : Node} (part : IsPagePart node) : node.WellFormed := by
  induction part with
  | text nonempty => exact .text nonempty
  | @container tag attributes children known names _ ih =>
    refine .element (Element.wellNamed_of_mem (List.mem_append_left _ known) names) ?_ ih
    intro void
    rw [isVoidTag_of_mem_containerTags tag known] at void
    cases void
  | @leaf tag attributes known names =>
    refine .element (Element.wellNamed_of_mem (List.mem_append_right _ known) names) ?_ ?_
    · intro _
      rfl
    · intro node h
      cases h

theorem IsPagePart.tag_mem {node : Node} (part : IsPagePart node) :
    ∀ e ∈ node.elements, e.tag ∈ containerTags ++ leafTags := by
  induction part with
  | text => intro e h; cases h
  | container known names inner ih =>
    intro e h
    cases h with
    | head => exact List.mem_append_left _ known
    | tail _ h =>
      obtain ⟨node, member, h⟩ := mem_descendantsOf.mp h
      exact ih node member e h
  | leaf known names =>
    intro e h
    cases h with
    | head => exact List.mem_append_right _ known
    | tail _ h => cases h

theorem isPagePart_of_mem_ofText {s : String} : ∀ node ∈ Node.ofText s, IsPagePart node := by
  intro node h
  obtain ⟨rfl, nonempty⟩ := eq_text_of_mem_ofText h
  exact .text nonempty

theorem IsInline.isPagePart {node : Node} (inner : IsInline node) : IsPagePart node := by
  induction inner with
  | text nonempty => exact .text nonempty
  | @formatting tag children known content ih =>
    have container : ∀ tag ∈ formattingTags, tag ∈ containerTags := by decide
    exact .container (container tag known) (by simp [pageAttributes]) ih
  | anchor href content ih =>
    exact .container (by simp [containerTags]) (by simp [pageAttributes]) ih
  | image => exact .leaf (by simp [leafTags]) (by simp [pageAttributes])
  | math source =>
    exact .container (by simp [containerTags]) (by simp [pageAttributes]) isPagePart_of_mem_ofText
  | memo =>
    exact .container (by simp [containerTags]) (by simp [pageAttributes]) (fun _ h => by cases h)
  | lineBreak => exact .leaf (by simp [leafTags]) (by simp [pageAttributes])

mutual

theorem IsList.isPagePart : ∀ {node : Node}, IsList node → IsPagePart node
  | _, .list known items => by
    refine .container ?_ (by simp [pageAttributes]) fun node h => (items node h).isPagePart
    obtain rfl | rfl := known <;> simp [containerTags]

theorem IsItem.isPagePart : ∀ {node : Node}, IsItem node → IsPagePart node
  | _, .item content =>
    .container (by simp [containerTags]) (by simp [pageAttributes])
      fun node h => (content node h).isPagePart

theorem IsItemPart.isPagePart : ∀ {node : Node}, IsItemPart node → IsPagePart node
  | _, .inline inner => inner.isPagePart
  | _, .list inner => inner.isPagePart

end

theorem isPagePart_pre {outer inner : List (String × String)} {text : String}
    (outerNames : outer.map Prod.fst ∈ pageAttributes)
    (innerNames : inner.map Prod.fst ∈ pageAttributes) :
    IsPagePart (.element ⟨"pre", outer, [.element ⟨"code", inner, Node.ofText text⟩]⟩) := by
  refine .container (by simp [containerTags]) outerNames fun node h => ?_
  rw [List.mem_singleton.mp h]
  exact .container (by simp [containerTags, formattingTags]) innerNames isPagePart_of_mem_ofText

theorem IsBlock.isPagePart {node : Node} (block : IsBlock node) : IsPagePart node := by
  cases block with
  | heading known named content =>
    refine .container ?_ ?_ fun node h => (content node h).isPagePart
    · exact List.mem_append_left _ (List.mem_append_left _ known)
    · obtain rfl | ⟨id, rfl⟩ := named <;> simp [pageAttributes]
  | paragraph content =>
    exact .container (by simp [containerTags]) (by simp [pageAttributes])
      fun node h => (content node h).isPagePart
  | blockquote content =>
    exact .container (by simp [containerTags]) (by simp [pageAttributes])
      fun node h => (content node h).isPagePart
  | list inner => exact inner.isPagePart
  | item inner => exact inner.isPagePart
  | source text drawn =>
    apply isPagePart_pre
    · obtain rfl | ⟨subtype, rfl⟩ := drawn <;> simp [pageAttributes]
    · simp [pageAttributes]
  | code text labelled =>
    apply isPagePart_pre
    · simp [pageAttributes]
    · obtain rfl | ⟨language, rfl⟩ := labelled <;> simp [pageAttributes]
  | image src title style => exact .leaf (by simp [leafTags]) (by simp [pageAttributes])
  | inline inner => exact inner.isPagePart

/-! ## Pages without tables -/

mutual

theorem Element.blocks_subset : ∀ e : Element, ∀ block ∈ e.blocks, block = e ∨ block ∈ e.descendants
  | ⟨tag, attributes, children⟩, block, h => by
    rw [Element.blocks] at h
    rw [Element.descendants]
    cases h with
    | head => exact .inl rfl
    | tail _ h =>
      split at h
      · exact .inr (blocksOf_subset children block h)
      · cases h

theorem blocksOf_subset : ∀ nodes : List Node, ∀ block ∈ blocksOf nodes, block ∈ descendantsOf nodes
  | [], _, h => by cases h
  | node :: nodes, block, h => by
    rw [blocksOf] at h
    rw [descendantsOf]
    obtain h | h := List.mem_append.mp h
    · exact List.mem_append_left _ (Node.blocks_subset node block h)
    · exact List.mem_append_right _ (blocksOf_subset nodes block h)

theorem Node.blocks_subset : ∀ node : Node, ∀ block ∈ node.blocks, block ∈ node.elements
  | .element e, block, h => by
    rw [Node.elements, List.mem_cons]
    exact Element.blocks_subset e block h
  | .text _, _, h => by cases h

end

theorem Element.blockKind_eq_table_iff {e : Element} :
    e.blockKind = .table ↔ e.dataType? = some "NodeTable" := by
  have kind : ∀ named : String, BlockKind.ofDataType named = .table ↔ named = "NodeTable" := by
    intro named
    unfold BlockKind.ofDataType
    split <;> simp_all
  rw [Element.blockKind, kind, Element.attrD, Element.dataType?]
  cases e.attr? "data-type" with
  | none => simp
  | some value => simp

theorem blockKind_ne_table {root : Element}
    (noTable : ∀ e ∈ root.descendants, e.dataType? ≠ some "NodeTable") :
    ∀ block ∈ blocksOf root.children, block.blockKind ≠ .table := by
  intro block member table
  rw [root.descendants_eq] at noTable
  exact noTable block (blocksOf_subset root.children block member)
    (Element.blockKind_eq_table_iff.mp table)

theorem isBlock_of_mem_render [UrlReader] (options : Options) {root : Element}
    (noTable : ∀ e ∈ root.descendants, e.dataType? ≠ some "NodeTable") :
    ∀ node ∈ root.render options, IsBlock node := by
  intro node h
  obtain block | ⟨e, member, table, -⟩ := isBlock_or_table_of_mem_renderBlocks options _ node h
  · exact block
  · exact absurd table (blockKind_ne_table noTable e member)

/-- The markup of a page follows the schema if the note has no table: it is that of headings,
    paragraphs, quotes, lists, code, images and inline content with their own attributes only,
    where every text and every value is escaped, and only `br` and `img` have no closing tag. -/
theorem pageMarkup_eq_printNodes [UrlReader] (options : Options) (root : Element)
    (noTable : ∀ e ∈ root.descendants, e.dataType? ≠ some "NodeTable") :
    ∃ page : List Node, (∀ node ∈ page, IsBlock node) ∧
      (∀ e ∈ descendantsOf page, isVoidTag e.tag = true ↔ e.tag = "br" ∨ e.tag = "img") ∧
      root.pageMarkup options = printNodes page := by
  have schema := isBlock_of_mem_render options noTable
  refine ⟨root.render options, schema, ?_, root.pageMarkup_eq options⟩
  have void : ∀ tag ∈ containerTags ++ leafTags,
      (isVoidTag tag = true ↔ tag = "br" ∨ tag = "img") := by decide
  intro e h
  obtain ⟨node, member, h⟩ := mem_descendantsOf.mp h
  exact void e.tag ((schema node member).isPagePart.tag_mem e h)

def oddNote : Element :=
  ⟨rootTag, [],
    [.element ⟨"X<", [("data-type", "NodeHeading"), ("id", "\"<"), ("id", "b")],
      [.element ⟨"br", [], [.text "a<b"]⟩, .element ⟨"span", [("data-type", "em")], []⟩]⟩,
      .element ⟨"IMG", [], [.text ">"]⟩]⟩

theorem pageMarkup_eq_printNodes_oddNote :
    (∀ e ∈ oddNote.descendants, e.dataType? ≠ some "NodeTable") ∧
    ∃ page : List Node, (∀ node ∈ page, IsBlock node) ∧
      (∀ e ∈ descendantsOf page, isVoidTag e.tag = true ↔ e.tag = "br" ∨ e.tag = "img") ∧
      oddNote.pageMarkup {} = printNodes page := by
  have noTable : ∀ e ∈ oddNote.descendants, e.dataType? ≠ some "NodeTable" := by decide
  exact ⟨noTable, pageMarkup_eq_printNodes {} oddNote noTable⟩

/-! ## Pages with tables -/

theorem wellFormed_render [UrlReader] (options : Options) {root : Element}
    (wf : ∀ node ∈ root.children, node.WellFormed) :
    ∀ node ∈ root.render options, node.WellFormed := by
  intro node h
  obtain block | ⟨e, member, -, rfl⟩ := isBlock_or_table_of_mem_renderBlocks options _ node h
  · exact block.isPagePart.wellFormed
  · obtain ⟨first, inside, below⟩ := mem_descendantsOf.mp (blocksOf_subset _ e member)
    exact Element.wellFormed_without "script" ((wf first inside).of_mem_elements e below)

/-- The page of any note reads back as what was written, unless elements of a table stand too
    deep, and then reading stops at one of them.  No page has a tag that is not closed, a closing
    tag that closes nothing, or a piece of markup that is cut off. -/
theorem parseStrict_transform [UrlReader] (options : Options) (markup : String) :
    (∃ root, parseStrict (transform options markup) = .ok root ∧
      printNodes root.children = transform options markup) ∨
    ∃ offset, parseStrict (transform options markup) = .error (.nestingTooDeep offset) := by
  have wf := wellFormed_render options (wellFormed_parse markup)
  rw [transform_eq]
  cases deep : (tagPlacesOf 0 0 ((parse markup).render options)).find? TagPlace.isTooDeep with
  | none =>
    left
    exact ⟨_, parseStrict_of_find?_eq_none wf deep, printNodes_mergedOf _⟩
  | some place =>
    right
    exact ⟨place.offset, parseStrict_of_find?_eq_some wf deep⟩

end NoteMarkup
