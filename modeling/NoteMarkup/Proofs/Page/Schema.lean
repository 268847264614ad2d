import NoteMarkup.Page
import NoteMarkup.Proofs.Tree.WellFormed

/-!
# The schema of a page

Which elements stand on a page, with which attributes and in which places, whatever the note
holds.  A table is kept as it stands, so it is the one block without a schema.
-/

namespace NoteMarkup

/-! ## The schema -/

def formattingTags : List String := ["strong", "em", "u", "s", "mark", "code"]

def headingTags : List String := ["h1", "h2", "h3", "h4", "h5", "h6"]

inductive IsInline : Node → Prop where
  | text {s : String} (nonempty : s ≠ "") : IsInline (.text s)
  | formatting {tag : String} {children : List Node} (known : tag ∈ formattingTags)
      (content : ∀ node ∈ children, IsInline node) : IsInline (.element ⟨tag, [], children⟩)
  | anchor (href : String) {children : List Node} (content : ∀ node ∈ children, IsInline node) :
      IsInline (.element ⟨"a", [("href", href)], children⟩)
  | image (src alt title : String) :
      IsInline (.element ⟨"img", [("src", src), ("alt", alt), ("title", title)], []⟩)
  | math (source : String) :
      IsInline (.element ⟨"span", [("class", "math-inline")], Node.ofText source⟩)
  | memo : IsInline (.element ⟨"sup", [], []⟩)
  | lineBreak : IsInline (.element ⟨"br", [], []⟩)

mutual

inductive IsList : Node → Prop where
  | list {tag : String} {children : List Node} (known : tag = "ul" ∨ tag = "ol")
      (items : ∀ node ∈ children, IsItem node) : IsList (.element ⟨tag, [], children⟩)

inductive IsItem : Node → Prop where
  | item {children : List Node} (content : ∀ node ∈ children, IsItemPart node) :
      IsItem (.element ⟨"li", [], children⟩)

inductive IsItemPart : Node → Prop where
  | inline {node : Node} (inner : IsInline node) : IsItemPart node
  | list {node : Node} (inner : IsList node) : IsItemPart node

end

/-- The nodes of a page that stand in no other node. -/
inductive IsBlock : Node → Prop where
  | heading {tag : String} {attributes : List (String × String)} {children : List Node}
      (known : tag ∈ headingTags) (named : attributes = [] ∨ ∃ id, attributes = [("id", id)])
      (content : ∀ node ∈ children, IsInline node) : IsBlock (.element ⟨tag, attributes, children⟩)
  | paragraph {children : List Node} (content : ∀ node ∈ children, IsInline node) :
      IsBlock (.element ⟨"p", [], children⟩)
  | blockquote {children : List Node} (content : ∀ node ∈ children, IsInline node) :
      IsBlock (.element ⟨"blockquote", [], children⟩)
  | list {node : Node} (inner : IsList node) : IsBlock node
  | item {node : Node} (inner : IsItem node) : IsBlock node
  | source {attributes : List (String × String)} (text : String)
      (drawn : attributes = [("class", "render-node")] ∨
        ∃ subtype, attributes = [("class", "render-node"), ("data-subtype", subtype)]) :
      IsBlock (.element ⟨"pre", attributes, [.element ⟨"code", [], Node.ofText text⟩]⟩)
  | code {attributes : List (String × String)} (text : String)
      (labelled : attributes = [] ∨ ∃ language, attributes = [("class", "language-" ++ language)]) :
      IsBlock (.element ⟨"pre", [], [.element ⟨"code", attributes, Node.ofText text⟩]⟩)
  | image (src title style : String) :
      IsBlock (.element ⟨"img", [("src", src), ("title", title), ("style", style)], []⟩)
  | inline {node : Node} (inner : IsInline node) : IsBlock node

theorem isInline_of_mem_ofText {s : String} {node : Node} (h : node ∈ Node.ofText s) :
    IsInline node := by
  obtain ⟨rfl, nonempty⟩ := eq_text_of_mem_ofText h
  exact .text nonempty

mutual

theorem Element.isInline_of_mem_renderInline [UrlReader] (options : Options) :
    ∀ (e : Element), ∀ node ∈ e.renderInline options, IsInline node
  | ⟨tag, attributes, children⟩ => by
    have content := isInline_of_mem_renderInlines options children
    have formatting : ∀ {own : String}, own ∈ formattingTags →
        ∀ node ∈ [tagged own [] (renderInlines options children)], IsInline node := by
      intro own known node h
      rw [List.mem_singleton.mp h]
      exact .formatting known content
    intro node h
    rw [Element.renderInline] at h
    cases kind : Element.inlineKind ⟨tag, attributes, children⟩ <;> simp only [kind] at h
    case strong => exact formatting (by simp [formattingTags]) node h
    case emphasis => exact formatting (by simp [formattingTags]) node h
    case underline => exact formatting (by simp [formattingTags]) node h
    case strikethrough => exact formatting (by simp [formattingTags]) node h
    case mark => exact formatting (by simp [formattingTags]) node h
    case code => exact formatting (by simp [formattingTags]) node h
    case image =>
      rw [Option.mem_toList, Option.map_eq_some_iff] at h
      obtain ⟨image, -, rfl⟩ := h
      exact .image _ _ _
    case math =>
      rw [List.mem_singleton.mp h]
      exact .math _
    case memo =>
      split at h
      · cases h
      · obtain h | h := List.mem_append.mp h
        · exact content node h
        · rw [List.mem_singleton.mp h]
          exact .memo
    case anchor =>
      rw [List.mem_singleton.mp h]
      exact .anchor _ content
    case lineBreak =>
      rw [List.mem_singleton.mp h]
      exact .lineBreak
    all_goals exact content node h

theorem isInline_of_mem_renderInlines [UrlReader] (options : Options) :
    ∀ (nodes : List Node), ∀ node ∈ renderInlines options nodes, IsInline node
  | [], _, h => by cases h
  | first :: nodes, node, h => by
    rw [renderInlines] at h
    obtain h | h := List.mem_append.mp h
    · exact Node.isInline_of_mem_renderInline options first node h
    · exact isInline_of_mem_renderInlines options nodes node h

theorem Node.isInline_of_mem_renderInline [UrlReader] (options : Options) :
    ∀ (first : Node), ∀ node ∈ first.renderInline options, IsInline node
  | .element e => Element.isInline_of_mem_renderInline options e
  | .text _ => fun _ => isInline_of_mem_ofText

end

theorem Element.isInline_of_mem_inlineContent [UrlReader] {options : Options} {e : Element} :
    ∀ node ∈ e.inlineContent options, IsInline node :=
  isInline_of_mem_renderInlines options e.editableContent

theorem Element.listTag_eq (e : Element) : e.listTag = "ul" ∨ e.listTag = "ol" := by
  unfold Element.listTag
  split
  · exact .inr rfl
  · exact .inl rfl

mutual

theorem Element.isList_renderList [UrlReader] (options : Options) :
    ∀ e : Element, IsList (e.renderList options)
  | ⟨_, _, children⟩ => by
    rw [Element.renderList]
    exact .list (Element.listTag_eq _) (isItem_of_mem_renderItems options children)

theorem isItem_of_mem_renderItems [UrlReader] (options : Options) :
    ∀ (nodes : List Node), ∀ node ∈ renderItems options nodes, IsItem node
  | [], _, h => by cases h
  | first :: nodes, node, h => by
    rw [renderItems] at h
    obtain h | h := List.mem_append.mp h
    · exact Node.isItem_of_mem_renderItem options first node h
    · exact isItem_of_mem_renderItems options nodes node h

theorem Node.isItem_of_mem_renderItem [UrlReader] (options : Options) :
    ∀ (first : Node), ∀ node ∈ first.renderItem options, IsItem node
  | .text _, _, h => by cases h
  | .element e, node, h => by
    rw [Node.renderItem] at h
    split at h
    · rw [List.mem_singleton.mp h]
      exact Element.isItem_renderListItem options e
    · cases h

theorem Element.isItem_renderListItem [UrlReader] (options : Options) :
    ∀ e : Element, IsItem (e.renderListItem options)
  | ⟨_, _, children⟩ => by
    rw [Element.renderListItem]
    exact .item (isItemPart_of_mem_renderItemContent options children)

theorem isItemPart_of_mem_renderItemContent [UrlReader] (options : Options) :
    ∀ (nodes : List Node), ∀ node ∈ renderItemContent options nodes, IsItemPart node
  | [], _, h => by cases h
  | first :: nodes, node, h => by
    rw [renderItemContent] at h
    obtain h | h := List.mem_append.mp h
    · exact Node.isItemPart_of_mem_renderItemPart options first node h
    · exact isItemPart_of_mem_renderItemContent options nodes node h

theorem Node.isItemPart_of_mem_renderItemPart [UrlReader] (options : Options) :
    ∀ (first : Node), ∀ node ∈ first.renderItemPart options, IsItemPart node
  | .text _, _, h => by cases h
  | .element e, node, h => by
    rw [Node.renderItemPart] at h
    split at h
    · exact .inline (Element.isInline_of_mem_inlineContent node h)
    · rw [List.mem_singleton.mp h]
      exact .list (Element.isList_renderList options e)
    · cases h

end

theorem headingLevelOf?_le {token : String} {level : Nat} (h : headingLevelOf? token = some level) :
    1 ≤ level ∧ level ≤ 6 := by
  unfold headingLevelOf? at h
  split at h
  · rename_i digit _
    split at h
    · rename_i range
      cases h
      have lower : 49 ≤ digit.toNat := range.1
      have upper : digit.toNat ≤ 54 := range.2
      show 1 ≤ digit.toNat - 48 ∧ digit.toNat - 48 ≤ 6
      omega
    · cases h
  · cases h

theorem Element.headingLevel_le (e : Element) : 1 ≤ e.headingLevel ∧ e.headingLevel ≤ 6 := by
  unfold Element.headingLevel
  split
  · rename_i level found
    obtain ⟨token, -, named⟩ := Option.bind_eq_some_iff.mp found
    exact headingLevelOf?_le named
  · cases found : e.classTokens.findSome? headingLevelOf? with
    | none => simp [defaultHeadingLevel]
    | some level =>
      obtain ⟨token, -, named⟩ := List.exists_of_findSome?_eq_some found
      exact headingLevelOf?_le named

theorem Element.headingTag_mem (e : Element) : "h" ++ toString e.headingLevel ∈ headingTags := by
  obtain ⟨lower, upper⟩ := e.headingLevel_le
  have cases : e.headingLevel = 1 ∨ e.headingLevel = 2 ∨ e.headingLevel = 3 ∨
      e.headingLevel = 4 ∨ e.headingLevel = 5 ∨ e.headingLevel = 6 := by omega
  obtain level | level | level | level | level | level := cases <;> rw [level] <;> decide

theorem optionalAttribute_eq (name : String) (value? : Option String) :
    optionalAttribute name value? = [] ∨ ∃ value, optionalAttribute name value? = [(name, value)] := by
  cases value? with
  | none => exact .inl rfl
  | some value => exact .inr ⟨value, rfl⟩

theorem isBlock_renderSource (subtype? : Option String) (e : Element) :
    IsBlock (renderSource subtype? e) := by
  apply IsBlock.source
  obtain none | ⟨subtype, some⟩ := optionalAttribute_eq "data-subtype" subtype?
  · rw [none]
    exact .inl rfl
  · rw [some]
    exact .inr ⟨subtype, rfl⟩

theorem isBlock_renderCodeBlock (e : Element) : IsBlock (renderCodeBlock e) := by
  unfold renderCodeBlock
  by_cases drawn : e.hasClass "render-node" = true
  · rw [if_pos drawn]
    exact isBlock_renderSource _ e
  · rw [if_neg drawn]
    apply IsBlock.code
    split
    · exact .inl rfl
    · exact .inr ⟨e.codeLanguage, rfl⟩

/-! ## All blocks -/

mutual

/-- The elements that are looked at as blocks: the element, and below one of no known kind the
    blocks among its children. -/
def Element.blocks : Element → List Element
  | ⟨tag, attributes, children⟩ =>
    ⟨tag, attributes, children⟩ ::
      if Element.blockKind ⟨tag, attributes, children⟩ = .unrecognized then blocksOf children else []

def blocksOf : List Node → List Element
  | [] => []
  | node :: nodes => node.blocks ++ blocksOf nodes

def Node.blocks : Node → List Element
  | .element e => e.blocks
  | .text _ => []

end

def IsTableOf (blocks : List Element) (node : Node) : Prop :=
  ∃ e ∈ blocks, e.blockKind = .table ∧ node = .element (e.without "script")

theorem IsTableOf.mono {blocks more : List Element} {node : Node} (h : IsTableOf blocks node)
    (subset : blocks ⊆ more) : IsTableOf more node := by
  obtain ⟨e, member, table, equal⟩ := h
  exact ⟨e, subset member, table, equal⟩

mutual

theorem Element.isBlock_or_table_of_mem_renderBlock [UrlReader] (options : Options) :
    ∀ (e : Element), ∀ node ∈ e.renderBlock options, IsBlock node ∨ IsTableOf e.blocks node
  | ⟨tag, attributes, children⟩, node, h => by
    have content : ∀ inner ∈ Element.inlineContent options ⟨tag, attributes, children⟩,
        IsInline inner := Element.isInline_of_mem_inlineContent
    have nested := isBlock_or_table_of_mem_renderBlocks options children
    rw [Element.renderBlock] at h
    rw [Element.blocks]
    cases kind : Element.blockKind ⟨tag, attributes, children⟩ <;> simp only [kind] at h
    case heading =>
      rw [List.mem_singleton.mp h]
      exact .inl (.heading (Element.headingTag_mem _) (optionalAttribute_eq _ _) content)
    case paragraph =>
      simp only [renderParagraph] at h
      split at h
      · cases h
      · rw [List.mem_singleton.mp h]
        exact .inl (.paragraph content)
    case list =>
      rw [List.mem_singleton.mp h]
      exact .inl (.list (Element.isList_renderList options _))
    case listItem =>
      rw [List.mem_singleton.mp h]
      exact .inl (.item (Element.isItem_renderListItem options _))
    case blockquote =>
      rw [List.mem_singleton.mp h]
      exact .inl (.blockquote content)
    case codeBlock =>
      rw [List.mem_singleton.mp h]
      exact .inl (isBlock_renderCodeBlock _)
    case image =>
      rw [Option.mem_toList, Option.map_eq_some_iff] at h
      obtain ⟨image, -, rfl⟩ := h
      exact .inl (.image _ _ _)
    case table => exact .inr ⟨_, List.mem_cons_self, kind, List.mem_singleton.mp h⟩
    case mathBlock =>
      rw [List.mem_singleton.mp h]
      exact .inl (isBlock_renderSource _ _)
    case unrecognized =>
      -- inline content stands in for blocks that come to nothing
      split at h
      · exact .inl (.inline (content node h))
      · obtain block | table := nested node h
        · exact .inl block
        · exact .inr (table.mono (List.subset_cons_self _ _))

/-- Every node of a page follows the schema, unless it is a table. -/
theorem isBlock_or_table_of_mem_renderBlocks [UrlReader] (options : Options) :
    ∀ (nodes : List Node), ∀ node ∈ renderBlocks options nodes,
      IsBlock node ∨ IsTableOf (blocksOf nodes) node
  | [], _, h => by cases h
  | first :: nodes, node, h => by
    rw [renderBlocks] at h
    rw [blocksOf]
    obtain h | h := List.mem_append.mp h
    · exact (Node.isBlock_or_table_of_mem_renderBlock options first node h).imp_right
        fun table => table.mono (List.subset_append_left _ _)
    · exact (isBlock_or_table_of_mem_renderBlocks options nodes node h).imp_right
        fun table => table.mono (List.subset_append_right _ _)

theorem Node.isBlock_or_table_of_mem_renderBlock [UrlReader] (options : Options) :
    ∀ (first : Node), ∀ node ∈ first.renderBlock options,
      IsBlock node ∨ IsTableOf first.blocks node
  | .element e => Element.isBlock_or_table_of_mem_renderBlock options e
  | .text _ => fun _ h => by cases h

end

end NoteMarkup
