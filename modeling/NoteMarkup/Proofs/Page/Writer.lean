import NoteMarkup.Proofs.Page.Schema
import NoteMarkup.Proofs.Text.Blank
import NoteMarkup.Proofs.Tree.RoundTrip

/-!
# The markup of a page is that of its tree

A page is written from left to right, and what has been written is asked whether it shows anything.
The tree of the page has the same markup, so what is known about the tree is known about the page.
-/

namespace NoteMarkup

theorem print_tagged {tag : String} (h : isVoidTag tag = false)
    (attributes : List (String × String)) (children : List Node) :
    (tagged tag attributes children).print =
      openingTag tag attributes ++ printNodes children ++ closingTag tag := by
  rw [tagged, Node.print, Element.print_of_not_void h]

theorem print_tagged_of_void {tag : String} (h : isVoidTag tag = true)
    (attributes : List (String × String)) (children : List Node) :
    (tagged tag attributes children).print = openingTag tag attributes := by
  rw [tagged, Node.print, Element.print_of_void h]

theorem wrapMarkup_printNodes {tag : String} (h : isVoidTag tag = false) (nodes : List Node) :
    wrapMarkup tag (printNodes nodes) = (tagged tag [] nodes).print := by
  rw [print_tagged h]
  apply String.ext
  simp [wrapMarkup, openingTag, closingTag, printAttributes]

theorem attributeMarkup_eq (name : String) (value? : Option String) :
    attributeMarkup name value? = printAttributes (optionalAttribute name value?) := by
  cases value? <;> simp [attributeMarkup, optionalAttribute, printAttributes, printAttribute]

/-! ## Nothing to show -/

theorem IsInline.ne_text_empty {node : Node} (inner : IsInline node) : node ≠ .text "" := by
  rintro rfl
  cases inner with
  | text nonempty => exact nonempty rfl

theorem IsBlock.ne_text_empty {node : Node} (block : IsBlock node) : node ≠ .text "" := by
  rintro rfl
  cases block with
  | inline inner => exact inner.ne_text_empty rfl
  | list inner => cases inner
  | item inner => cases inner

theorem text_empty_not_mem_renderInlines [UrlReader] (options : Options) (nodes : List Node) :
    .text "" ∉ renderInlines options nodes := fun h =>
  (isInline_of_mem_renderInlines options nodes _ h).ne_text_empty rfl

theorem text_empty_not_mem_renderBlocks [UrlReader] (options : Options) (nodes : List Node) :
    .text "" ∉ renderBlocks options nodes := by
  intro h
  obtain block | ⟨e, -, -, equal⟩ := isBlock_or_table_of_mem_renderBlocks options nodes _ h
  · exact block.ne_text_empty rfl
  · cases equal

/-- Content shows nothing but blanks exactly if its markup does. -/
theorem isBlankContent_eq (nodes : List Node) :
    isBlankContent nodes = (Text.trim (printNodes nodes)).isEmpty := by
  rw [Text.isEmpty_trim]
  induction nodes with
  | nil => rfl
  | cons node nodes ih =>
    rw [printNodes, String.toList_append, List.all_append, ← ih]
    unfold isBlankContent
    rw [List.all_cons]
    cases node with
    | text s => rw [Node.print, Text.toList_escape, Text.all_isBlank_escapeChars]
    | element e =>
      have bracket : Text.isBlank '<' = false := rfl
      obtain ⟨after, equal⟩ := e.exists_print_eq
      have shown : e.print.toList.all Text.isBlank = false := by
        rw [equal]
        simp [openingTag, bracket]
      rw [Node.print, shown]

theorem inlineImageMarkup_eq [UrlReader] (options : Options) (image : Element) :
    inlineImageMarkup options image = (inlineImage options image).print := by
  unfold inlineImageMarkup inlineImage
  rw [print_tagged_of_void rfl]
  apply String.ext
  simp [openingTag, printAttributes, printAttribute]

mutual

theorem Element.writeInline_eq [UrlReader] (options : Options) :
    ∀ e : Element, e.writeInline options = printNodes (e.renderInline options)
  | ⟨tag, attributes, children⟩ => by
    have content := writeInlines_eq options children
    have empty := printNodes_eq_empty_iff (text_empty_not_mem_renderInlines options children)
    rw [Element.writeInline, Element.renderInline, content]
    cases kind : Element.inlineKind ⟨tag, attributes, children⟩ <;> simp only
    case image =>
      cases Element.firstImage? ⟨tag, attributes, children⟩ with
      | none => rfl
      | some image => simp [inlineImageMarkup_eq]
    case math =>
      have named : Text.escape "math-inline" = "math-inline" := rfl
      rw [printNodes_singleton, print_tagged rfl, printNodes_ofText]
      simp only [openingTag, closingTag, printAttributes, printAttribute, List.map_cons,
        List.map_nil, named]
      apply String.ext
      simp
    case memo =>
      -- the mark of a memo is left out exactly where its content is written as nothing
      cases rendered : renderInlines options children with
      | nil => rfl
      | cons node nodes =>
        rw [rendered] at empty
        have shown : (printNodes (node :: nodes)).isEmpty = false := by
          rw [Bool.eq_false_iff, ne_eq, String.isEmpty_iff, empty]
          exact List.cons_ne_nil node nodes
        rw [shown, if_neg Bool.false_ne_true, printNodes_append, printNodes_singleton]
        rfl
    case anchor =>
      rw [printNodes_singleton, print_tagged rfl]
      apply String.ext
      simp [openingTag, closingTag, printAttributes, printAttribute]
    case lineBreak => rfl
    all_goals
      first
      | rfl
      | rw [printNodes_singleton, wrapMarkup_printNodes rfl]

theorem writeInlines_eq [UrlReader] (options : Options) :
    ∀ nodes : List Node, writeInlines options nodes = printNodes (renderInlines options nodes)
  | [] => rfl
  | node :: nodes => by
    rw [writeInlines, renderInlines, printNodes_append, Node.writeInline_eq options node,
      writeInlines_eq options nodes]

theorem Node.writeInline_eq [UrlReader] (options : Options) :
    ∀ node : Node, node.writeInline options = printNodes (node.renderInline options)
  | .element e => Element.writeInline_eq options e
  | .text s => (printNodes_ofText s).symm

end

theorem Element.writeContent_eq [UrlReader] (options : Options) (e : Element) :
    e.writeContent options = printNodes (e.inlineContent options) :=
  writeInlines_eq options e.editableContent

theorem isVoidTag_of_mem_headingTags : ∀ tag ∈ headingTags, isVoidTag tag = false := by
  decide

theorem Element.writeHeading_eq [UrlReader] (options : Options) (e : Element) :
    e.writeHeading options = (renderHeading options e).print := by
  unfold Element.writeHeading renderHeading
  rw [print_tagged (isVoidTag_of_mem_headingTags _ e.headingTag_mem), e.writeContent_eq,
    attributeMarkup_eq]
  apply String.ext
  simp [openingTag, closingTag]

theorem Element.writeParagraph_eq [UrlReader] (options : Options) (e : Element) :
    e.writeParagraph options = printNodes (renderParagraph options e) := by
  simp only [Element.writeParagraph, renderParagraph, e.writeContent_eq, isBlankContent_eq]
  by_cases blank : (Text.trim (printNodes (e.inlineContent options))).isEmpty = true
  · rw [if_pos blank, if_pos blank, printNodes]
  · rw [if_neg blank, if_neg blank, printNodes_singleton, wrapMarkup_printNodes rfl]

theorem Element.writeSource_eq (subtype? : Option String) (e : Element) :
    e.writeSource subtype? = (renderSource subtype? e).print := by
  have drawn : Text.escape "render-node" = "render-node" := rfl
  unfold Element.writeSource renderSource
  rw [print_tagged rfl, printNodes_singleton, print_tagged rfl, printNodes_ofText,
    attributeMarkup_eq]
  simp only [openingTag, closingTag, printAttributes, printAttribute, List.map_cons, List.map_nil,
    String.join_cons, drawn]
  apply String.ext
  simp

theorem Element.writeCodeBlock_eq (e : Element) : e.writeCodeBlock = (renderCodeBlock e).print := by
  unfold Element.writeCodeBlock renderCodeBlock
  by_cases drawn : e.hasClass "render-node" = true
  · rw [if_pos drawn, if_pos drawn, Element.writeSource_eq]
  · rw [if_neg drawn, if_neg drawn]
    simp only
    rw [print_tagged rfl, printNodes_singleton, print_tagged rfl, printNodes_ofText]
    apply String.ext
    by_cases unlabelled : e.codeLanguage.isEmpty = true
    · rw [if_pos unlabelled, if_pos unlabelled]
      simp [openingTag, closingTag, printAttributes]
    · have language : Text.escape "language-" = "language-" := rfl
      rw [if_neg unlabelled, if_neg unlabelled]
      simp only [openingTag, closingTag, printAttributes, printAttribute, List.map_cons,
        List.map_nil, Text.escape_append, language]
      simp

theorem blockImageMarkup_eq [UrlReader] (options : Options) (image : Element) :
    blockImageMarkup options image = (blockImage options image).print := by
  unfold blockImageMarkup blockImage
  rw [print_tagged_of_void rfl]
  apply String.ext
  simp [openingTag, printAttributes, printAttribute]

mutual

theorem Element.writeList_eq [UrlReader] (options : Options) :
    ∀ e : Element, e.writeList options = (e.renderList options).print
  | ⟨_, _, children⟩ => by
    have void : ∀ e : Element, isVoidTag e.listTag = false := by
      intro e
      obtain h | h := e.listTag_eq <;> rw [h] <;> rfl
    rw [Element.writeList, Element.renderList, writeItems_eq options children,
      wrapMarkup_printNodes (void _)]

theorem writeItems_eq [UrlReader] (options : Options) :
    ∀ nodes : List Node, writeItems options nodes = printNodes (renderItems options nodes)
  | [] => rfl
  | node :: nodes => by
    rw [writeItems, renderItems, printNodes_append, Node.writeItem_eq options node,
      writeItems_eq options nodes]

theorem Node.writeItem_eq [UrlReader] (options : Options) :
    ∀ node : Node, node.writeItem options = printNodes (node.renderItem options)
  | .text _ => rfl
  | .element e => by
    rw [Node.writeItem, Node.renderItem]
    split
    · rw [printNodes_singleton, Element.writeListItem_eq options e]
    · rfl

theorem Element.writeListItem_eq [UrlReader] (options : Options) :
    ∀ e : Element, e.writeListItem options = (e.renderListItem options).print
  | ⟨_, _, children⟩ => by
    rw [Element.writeListItem, Element.renderListItem, writeItemContent_eq options children,
      wrapMarkup_printNodes rfl]

theorem writeItemContent_eq [UrlReader] (options : Options) :
    ∀ nodes : List Node,
      writeItemContent options nodes = printNodes (renderItemContent options nodes)
  | [] => rfl
  | node :: nodes => by
    rw [writeItemContent, renderItemContent, printNodes_append,
      Node.writeItemPart_eq options node, writeItemContent_eq options nodes]

theorem Node.writeItemPart_eq [UrlReader] (options : Options) :
    ∀ node : Node, node.writeItemPart options = printNodes (node.renderItemPart options)
  | .text _ => rfl
  | .element e => by
    rw [Node.writeItemPart, Node.renderItemPart]
    cases e.blockKind
    case paragraph => exact e.writeContent_eq options
    case list => exact (Element.writeList_eq options e).trans (printNodes_singleton _).symm
    all_goals rfl

end

/-! ## All blocks -/

mutual

theorem Element.writeBlock_eq [UrlReader] (options : Options) :
    ∀ e : Element, e.writeBlock options = printNodes (e.renderBlock options)
  | ⟨tag, attributes, children⟩ => by
    have content := Element.writeContent_eq options ⟨tag, attributes, children⟩
    have nested := writeBlocks_eq options children
    have empty := printNodes_eq_empty_iff (text_empty_not_mem_renderBlocks options children)
    rw [Element.writeBlock, Element.renderBlock, nested, content]
    cases kind : Element.blockKind ⟨tag, attributes, children⟩ <;> simp only
    case heading => rw [printNodes_singleton, Element.writeHeading_eq]
    case paragraph => exact Element.writeParagraph_eq options _
    case list => rw [printNodes_singleton, Element.writeList_eq]
    case listItem => rw [printNodes_singleton, Element.writeListItem_eq]
    case blockquote => rw [printNodes_singleton, wrapMarkup_printNodes rfl]
    case codeBlock => rw [printNodes_singleton, Element.writeCodeBlock_eq]
    case image =>
      cases Element.firstImage? ⟨tag, attributes, children⟩ with
      | none => rfl
      | some image => simp [blockImageMarkup_eq]
    case table => rw [printNodes_singleton, Node.print]
    case mathBlock => rw [printNodes_singleton, Element.writeSource_eq]
    case unrecognized =>
      -- the content stands in where the blocks inside are written as nothing
      cases rendered : renderBlocks options children with
      | nil => rfl
      | cons node nodes =>
        rw [rendered] at empty
        have shown : (printNodes (node :: nodes)).isEmpty = false := by
          rw [Bool.eq_false_iff, ne_eq, String.isEmpty_iff, empty]
          exact List.cons_ne_nil node nodes
        rw [shown, if_neg Bool.false_ne_true]

/-- What is written for the blocks of a note is the markup of their page. -/
theorem writeBlocks_eq [UrlReader] (options : Options) :
    ∀ nodes : List Node, writeBlocks options nodes = printNodes (renderBlocks options nodes)
  | [] => rfl
  | node :: nodes => by
    rw [writeBlocks, renderBlocks, printNodes_append, Node.writeBlock_eq options node,
      writeBlocks_eq options nodes]

theorem Node.writeBlock_eq [UrlReader] (options : Options) :
    ∀ node : Node, node.writeBlock options = printNodes (node.renderBlock options)
  | .element e => Element.writeBlock_eq options e
  | .text _ => rfl

end

theorem Element.pageMarkup_eq [UrlReader] (options : Options) (root : Element) :
    root.pageMarkup options = printNodes (root.render options) :=
  writeBlocks_eq options root.children

/-- A blank note is read as one text, or as nothing. -/
theorem parse_of_all_isBlank {markup : String} (blank : markup.toList.all Text.isBlank = true) :
    parse markup = ⟨rootTag, [], mergedOf (Node.ofText markup)⟩ := by
  have escaped : Text.escape markup = markup := by
    apply String.ext
    rw [Text.toList_escape, Text.escapeChars_of_all_isBlank blank]
  have shallow : (tagPlacesOf 0 0 (Node.ofText markup)).find? TagPlace.isTooDeep = none := by
    unfold Node.ofText
    split <;> rfl
  have reads := parseStrict_of_find?_eq_none wellFormed_of_mem_ofText shallow
  rw [printNodes_ofText, escaped] at reads
  exact parse_of_parseStrict_eq_ok reads

/-- The page of a note has the markup of its tree. -/
theorem transform_eq [UrlReader] (options : Options) (markup : String) :
    transform options markup = printNodes ((parse markup).render options) := by
  unfold transform
  split
  · rename_i blank
    rw [Text.isEmpty_trim] at blank
    rw [parse_of_all_isBlank blank]
    unfold Node.ofText
    split <;> rfl
  · exact Element.pageMarkup_eq options (parse markup)

end NoteMarkup
