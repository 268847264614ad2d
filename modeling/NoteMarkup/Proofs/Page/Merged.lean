import NoteMarkup.Outline
import NoteMarkup.Proofs.Page.Append
import NoteMarkup.Proofs.Tree.Pruned
import NoteMarkup.Summary

/-!
# Documents with their texts split in other ways

A comment keeps two texts apart, and nothing that is said about a document depends on that: neither
its page (`writeBlocks_mergedOf`) nor its outline, its title and its summary.
-/

namespace NoteMarkup

@[simp]
theorem Element.attr?_merged (e : Element) (name : String) :
    e.merged.attr? name = e.attr? name := by
  rw [Element.attr?, e.attributes_merged, Element.attr?]

@[simp]
theorem Element.attrD_merged (e : Element) (name : String) :
    e.merged.attrD name = e.attrD name := by
  rw [Element.attrD, e.attr?_merged, Element.attrD]

@[simp]
theorem Element.attrNonEmpty?_merged (e : Element) (name : String) :
    e.merged.attrNonEmpty? name = e.attrNonEmpty? name := by
  rw [Element.attrNonEmpty?, e.attr?_merged, Element.attrNonEmpty?]

theorem Element.classTokens_merged (e : Element) : e.merged.classTokens = e.classTokens := by
  rw [Element.classTokens, e.attrD_merged, Element.classTokens]

theorem Element.hasClass_merged (e : Element) (token : String) :
    e.merged.hasClass token = e.hasClass token := by
  rw [Element.hasClass, e.classTokens_merged, Element.hasClass]

@[simp]
theorem Element.blockKind_merged (e : Element) : e.merged.blockKind = e.blockKind := by
  rw [Element.blockKind, e.attrD_merged, Element.blockKind]

theorem Element.inlineKind_merged (e : Element) : e.merged.inlineKind = e.inlineKind := by
  rw [Element.inlineKind, e.tag_merged, e.attrD_merged, Element.inlineKind]

@[simp]
theorem Element.imageSource_merged [UrlReader] (options : Options) (e : Element) :
    e.merged.imageSource options = e.imageSource options := by
  simp [Element.imageSource, Element.storedReference]

theorem Element.storedSource_merged (e : Element) : e.merged.storedSource = e.storedSource := by
  rw [Element.storedSource, e.attrD_merged, Element.storedSource]

theorem Element.headingLevel_merged (e : Element) : e.merged.headingLevel = e.headingLevel := by
  rw [Element.headingLevel, e.attr?_merged, e.classTokens_merged, Element.headingLevel]

theorem Element.headingId?_merged (e : Element) : e.merged.headingId? = e.headingId? := by
  simp [Element.headingId?]

/-- A search that does not look at the content of elements finds the same element. -/
theorem Element.find?_merged {p : Element → Bool} (blind : ∀ e : Element, p e.merged = p e)
    (e : Element) : e.merged.find? p = (e.find? p).map Element.merged := by
  rw [Element.find?_eq, Element.find?_eq, e.descendants_merged, List.find?_map,
    show p ∘ Element.merged = p from funext blind]

theorem Element.firstImage?_merged (e : Element) :
    e.merged.firstImage? = e.firstImage?.map Element.merged :=
  Element.find?_merged (fun inner => by rw [inner.tag_merged]) e

theorem Element.editableRegion?_merged (e : Element) :
    e.merged.editableRegion? = e.editableRegion?.map Element.merged :=
  Element.find?_merged (fun inner => by simp [Element.isEditable]) e

theorem Element.editableContent_merged (e : Element) :
    e.merged.editableContent = mergedOf e.editableContent := by
  rw [Element.editableContent, e.editableRegion?_merged, Element.editableContent]
  cases e.editableRegion? <;> simp

mutual

@[simp]
theorem Element.textContent_merged : ∀ e : Element, e.merged.textContent = e.textContent
  | ⟨_, _, children⟩ => by
    rw [Element.merged, Element.textContent, Element.textContent, textContentOf_mergedOf children]

theorem textContentOf_mergedOf :
    ∀ nodes : List Node, textContentOf (mergedOf nodes) = textContentOf nodes
  | [] => rfl
  | node :: nodes => by
    rw [mergedOf, append_joinFront textContentOf Node.textContent (fun _ _ => rfl) (fun _ _ => rfl),
      Node.textContent_merged node, textContentOf_mergedOf nodes, textContentOf]

theorem Node.textContent_merged : ∀ node : Node, node.merged.textContent = node.textContent
  | .element e => by rw [Node.merged, Node.textContent, Node.textContent, e.textContent_merged]
  | .text _ => rfl

end

mutual

theorem Element.plainText_merged : ∀ e : Element, e.merged.plainText = e.plainText
  | ⟨_, _, children⟩ => by
    rw [Element.merged, Element.plainText, Element.plainText, plainTextOf_mergedOf children]

theorem plainTextOf_mergedOf :
    ∀ nodes : List Node, plainTextOf (mergedOf nodes) = plainTextOf nodes
  | [] => rfl
  | node :: nodes => by
    rw [mergedOf, append_joinFront plainTextOf Node.plainText (fun _ _ => rfl) (fun _ _ => rfl),
      Node.plainText_merged node, plainTextOf_mergedOf nodes, plainTextOf]

theorem Node.plainText_merged : ∀ node : Node, node.merged.plainText = node.plainText
  | .element e => by
    rw [Node.merged, Node.plainText, Node.plainText, Element.isSeparating, e.tag_merged,
      e.plainText_merged, Element.isSeparating]
  | .text _ => rfl

end

theorem Element.summary_merged (limit : Nat) (root : Element) :
    root.merged.summary limit = root.summary limit := by
  have same : root.merged.summaryText = root.summaryText := by
    rw [Element.summaryText, root.plainText_merged, Element.summaryText]
  rw [Element.summary, same, Element.summary]

theorem Element.headingText_merged (e : Element) : e.merged.headingText = e.headingText := by
  rw [Element.headingText, e.editableRegion?_merged, Element.headingText]
  cases e.editableRegion? <;> simp

theorem Element.outlineEntry_merged (e : Element) : e.merged.outlineEntry = e.outlineEntry := by
  rw [Element.outlineEntry, e.headingLevel_merged, e.headingId?_merged, e.headingText_merged,
    Element.outlineEntry]

mutual

theorem Element.outline_merged : ∀ e : Element, e.merged.outline = e.outline
  | ⟨_, _, children⟩ => by
    rw [Element.merged, Element.outline, Element.outline, outlineOf_mergedOf children]

theorem outlineOf_mergedOf : ∀ nodes : List Node, outlineOf (mergedOf nodes) = outlineOf nodes
  | [] => rfl
  | node :: nodes => by
    rw [mergedOf, append_joinFront outlineOf Node.outline (fun _ _ => rfl) (fun _ _ => rfl),
      Node.outline_merged node, outlineOf_mergedOf nodes, outlineOf]

theorem Node.outline_merged : ∀ node : Node, node.merged.outline = node.outline
  | .element e => by
    rw [Node.merged, Node.outline, Node.outline, e.blockKind_merged, e.outlineEntry_merged,
      e.outline_merged]
  | .text _ => rfl

end

theorem Element.title?_merged (root : Element) : root.merged.title? = root.title? := by
  have block : root.merged.find? (·.blockKind = .heading) =
      (root.find? (·.blockKind = .heading)).map Element.merged :=
    Element.find?_merged (fun e => by rw [e.blockKind_merged]) root
  have page : root.merged.find? Element.isPageHeading =
      (root.find? Element.isPageHeading).map Element.merged :=
    Element.find?_merged (fun e => by simp [Element.isPageHeading]) root
  rw [Element.title?, block, page, Element.title?]
  simp only [Option.bind_map, Function.comp_def, Element.headingText_merged,
    Element.textContent_merged]

/-! ## Pages -/

theorem Element.writeSource_merged (subtype? : Option String) (e : Element) :
    e.merged.writeSource subtype? = e.writeSource subtype? := by
  unfold Element.writeSource
  rw [e.storedSource_merged]

theorem Element.writeCodeBlock_merged (e : Element) :
    e.merged.writeCodeBlock = e.writeCodeBlock := by
  have holds (token : String) : e.merged.find? (·.hasClass token) =
      (e.find? (·.hasClass token)).map Element.merged :=
    Element.find?_merged (fun inner => inner.hasClass_merged token) e
  have text : e.merged.codeText = e.codeText := by
    rw [Element.codeText, holds, Element.codeText, Option.map_map]
    simp only [Function.comp_def, Element.textContent_merged]
  have language : e.merged.codeLanguage = e.codeLanguage := by
    rw [Element.codeLanguage, holds, Element.codeLanguage, Option.map_map]
    simp only [Function.comp_def, Element.textContent_merged]
  rw [Element.writeCodeBlock, e.hasClass_merged, e.writeSource_merged, e.attrNonEmpty?_merged, text,
    language, Element.writeCodeBlock]

mutual

theorem Element.print_without_merged (tag : String) :
    ∀ e : Element, (e.merged.without tag).print = (e.without tag).print
  | ⟨_, _, children⟩ => by
    rw [Element.merged, Element.without, Element.without, Element.print, Element.print,
      printNodes_withoutIn_mergedOf tag children]

theorem printNodes_withoutIn_mergedOf (tag : String) :
    ∀ nodes : List Node,
      printNodes (withoutIn tag (mergedOf nodes)) = printNodes (withoutIn tag nodes)
  | [] => rfl
  | node :: nodes => by
    have joined := append_joinFront (fun nodes => printNodes (withoutIn tag nodes))
      (fun node => printNodes (node.without tag))
      (fun _ _ => by rw [withoutIn, printNodes_append])
      (fun s t => by simp [Node.without, Node.print, Text.escape_append])
      node.merged (mergedOf nodes)
    rw [mergedOf, joined, Node.print_without_merged tag node,
      printNodes_withoutIn_mergedOf tag nodes, withoutIn, printNodes_append]

theorem Node.print_without_merged (tag : String) :
    ∀ node : Node, printNodes (node.merged.without tag) = printNodes (node.without tag)
  | .text _ => rfl
  | .element e => by
    rw [Node.merged, Node.without, Node.without, e.tag_merged]
    split
    · rfl
    · rw [printNodes_singleton, printNodes_singleton, Node.print, Node.print,
        e.print_without_merged tag]

end

section

variable [UrlReader] (options : Options)

theorem inlineImageMarkup_merged (image : Element) :
    inlineImageMarkup options image.merged = inlineImageMarkup options image := by
  unfold inlineImageMarkup
  simp only [Element.imageSource_merged, Element.attrD_merged]

theorem blockImageMarkup_merged (image : Element) :
    blockImageMarkup options image.merged = blockImageMarkup options image := by
  unfold blockImageMarkup
  simp only [Element.imageSource_merged, Element.attrD_merged]

mutual

theorem Element.writeInline_merged :
    ∀ e : Element, e.merged.writeInline options = e.writeInline options
  | ⟨tag, attributes, children⟩ => by
    have inner := writeInlines_mergedOf children
    have image := Element.firstImage?_merged ⟨tag, attributes, children⟩
    have kind := Element.inlineKind_merged ⟨tag, attributes, children⟩
    rw [Element.merged] at image kind ⊢
    rw [Element.writeInline, Element.writeInline, inner, image, kind]
    cases Element.inlineKind ⟨tag, attributes, children⟩ <;> simp only
    case image =>
      cases Element.firstImage? ⟨tag, attributes, children⟩ with
      | none => rfl
      | some image => exact inlineImageMarkup_merged options image
    all_goals rfl

theorem writeInlines_mergedOf :
    ∀ nodes : List Node, writeInlines options (mergedOf nodes) = writeInlines options nodes
  | [] => rfl
  | node :: nodes => by
    rw [mergedOf, append_joinFront (writeInlines options) (Node.writeInline options)
      (fun _ _ => rfl) Text.escape_append, Node.writeInline_merged node,
      writeInlines_mergedOf nodes, writeInlines]

theorem Node.writeInline_merged :
    ∀ node : Node, node.merged.writeInline options = node.writeInline options
  | .element e => by
    rw [Node.merged, Node.writeInline, Node.writeInline, e.writeInline_merged]
  | .text _ => rfl

end

theorem Element.writeContent_merged (e : Element) :
    e.merged.writeContent options = e.writeContent options := by
  rw [Element.writeContent, e.editableContent_merged, writeInlines_mergedOf, Element.writeContent]

theorem Element.writeHeading_merged (e : Element) :
    e.merged.writeHeading options = e.writeHeading options := by
  rw [Element.writeHeading, e.headingLevel_merged, e.headingId?_merged, e.writeContent_merged,
    Element.writeHeading]

theorem Element.writeParagraph_merged (e : Element) :
    e.merged.writeParagraph options = e.writeParagraph options := by
  rw [Element.writeParagraph, e.writeContent_merged, Element.writeParagraph]

mutual

theorem Element.writeList_merged :
    ∀ e : Element, e.merged.writeList options = e.writeList options
  | ⟨_, _, children⟩ => by
    rw [Element.merged, Element.writeList, Element.writeList, writeItems_mergedOf children]
    rfl

theorem writeItems_mergedOf :
    ∀ nodes : List Node, writeItems options (mergedOf nodes) = writeItems options nodes
  | [] => rfl
  | node :: nodes => by
    rw [mergedOf, append_joinFront (writeItems options) (Node.writeItem options)
      (fun _ _ => rfl) (fun _ _ => rfl), Node.writeItem_merged node, writeItems_mergedOf nodes,
      writeItems]

theorem Node.writeItem_merged :
    ∀ node : Node, node.merged.writeItem options = node.writeItem options
  | .text _ => rfl
  | .element e => by
    rw [Node.merged, Node.writeItem, Node.writeItem, e.blockKind_merged, e.writeListItem_merged]

theorem Element.writeListItem_merged :
    ∀ e : Element, e.merged.writeListItem options = e.writeListItem options
  | ⟨_, _, children⟩ => by
    rw [Element.merged, Element.writeListItem, Element.writeListItem,
      writeItemContent_mergedOf children]

theorem writeItemContent_mergedOf :
    ∀ nodes : List Node, writeItemContent options (mergedOf nodes) = writeItemContent options nodes
  | [] => rfl
  | node :: nodes => by
    rw [mergedOf, append_joinFront (writeItemContent options) (Node.writeItemPart options)
      (fun _ _ => rfl) (fun _ _ => rfl), Node.writeItemPart_merged node,
      writeItemContent_mergedOf nodes, writeItemContent]

theorem Node.writeItemPart_merged :
    ∀ node : Node, node.merged.writeItemPart options = node.writeItemPart options
  | .text _ => rfl
  | .element e => by
    rw [Node.merged, Node.writeItemPart, Node.writeItemPart, e.blockKind_merged,
      e.writeContent_merged, e.writeList_merged]

end

mutual

theorem Element.writeBlock_merged :
    ∀ e : Element, e.merged.writeBlock options = e.writeBlock options
  | ⟨tag, attributes, children⟩ => by
    have nested := writeBlocks_mergedOf children
    have kind := Element.blockKind_merged ⟨tag, attributes, children⟩
    have content := Element.writeContent_merged options ⟨tag, attributes, children⟩
    have heading := Element.writeHeading_merged options ⟨tag, attributes, children⟩
    have paragraph := Element.writeParagraph_merged options ⟨tag, attributes, children⟩
    have list := Element.writeList_merged options ⟨tag, attributes, children⟩
    have item := Element.writeListItem_merged options ⟨tag, attributes, children⟩
    have code := Element.writeCodeBlock_merged ⟨tag, attributes, children⟩
    have image := Element.firstImage?_merged ⟨tag, attributes, children⟩
    have table := Element.print_without_merged "script" ⟨tag, attributes, children⟩
    have math := Element.writeSource_merged (some "math") ⟨tag, attributes, children⟩
    rw [Element.merged] at kind content heading paragraph list item code image table math ⊢
    rw [Element.writeBlock, Element.writeBlock, kind, nested, content, heading, paragraph, list,
      item, code, image, table, math]
    cases Element.firstImage? ⟨tag, attributes, children⟩ with
    | none => rfl
    | some image => simp only [Option.map_some, blockImageMarkup_merged]

theorem writeBlocks_mergedOf :
    ∀ nodes : List Node, writeBlocks options (mergedOf nodes) = writeBlocks options nodes
  | [] => rfl
  | node :: nodes => by
    rw [mergedOf, append_joinFront (writeBlocks options) (Node.writeBlock options)
      (fun _ _ => rfl) (fun _ _ => rfl), Node.writeBlock_merged node, writeBlocks_mergedOf nodes,
      writeBlocks]

theorem Node.writeBlock_merged :
    ∀ node : Node, node.merged.writeBlock options = node.writeBlock options
  | .element e => by rw [Node.merged, Node.writeBlock, Node.writeBlock, e.writeBlock_merged]
  | .text _ => rfl

end

/-- The page of a note that is read as some nodes, up to how texts are split, is what the nodes
    become as blocks. -/
theorem transform_of_mergedOf {markup : String} {found nodes : List Node}
    (reads : parseStrict markup = .ok ⟨rootTag, [], found⟩)
    (merged : mergedOf found = mergedOf nodes) :
    transform options markup = writeBlocks options nodes := by
  rw [transform_eq_writeBlocks, parse_of_parseStrict_eq_ok reads, ← writeBlocks_mergedOf, merged,
    writeBlocks_mergedOf]

end

end NoteMarkup
