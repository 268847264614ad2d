import Mathlib.Data.List.Forall2
import NoteMarkup.Proofs.Page.ImageSource
import NoteMarkup.Proofs.Page.WellFormed
import NoteMarkup.Proofs.Tree.Tokens

/-!
# Images of a page

The images of a page are images of the note in document order, each the first below one element.
Where images are moved, none is fetched from another host, whatever reads URLs, as long as what
starts with a `/` is no URL of its own and the path of a URL starts with a `/`.

- `imagesFrom_renderBlocks` follows the images of a note along its page;
- `exists_path_of_imageTagsOf` is the statement about pages.
-/

namespace NoteMarkup

/-! ## Images of markup -/

def Token.imageAttributes? : Token → Option (List (String × String))
  | .opening tag attributes _ => if tag = "img" then some attributes else none
  | _ => none

def imageTagsOf (markup : String) : List (List (String × String)) :=
  (lexemes markup).filterMap fun lexeme => lexeme.token.imageAttributes?

def pageImages (nodes : List Node) : List (List (String × String)) :=
  (tokensOf nodes).filterMap Token.imageAttributes?

theorem imageTagsOf_printNodes {nodes : List Node} (wf : ∀ node ∈ nodes, node.WellFormed) :
    imageTagsOf (printNodes nodes) = pageImages nodes :=
  filterMap_lexemes_printNodes (fun _ => rfl) wf

theorem pageImages_append (nodes more : List Node) :
    pageImages (nodes ++ more) = pageImages nodes ++ pageImages more := by
  rw [pageImages, tokensOf_append, List.filterMap_append]
  rfl

theorem pageImages_ofText (s : String) : pageImages (Node.ofText s) = [] := by
  unfold Node.ofText
  split <;> rfl

theorem pageImages_tagged {tag : String} (plain : tag ≠ "img") (attributes : List (String × String))
    (children : List Node) :
    pageImages [tagged tag attributes children] =
      if isVoidTag tag then [] else pageImages children := by
  simp only [pageImages, tagged, tokensOf, Node.tokens, Element.tokens, List.append_nil]
  cases isVoidTag tag <;> simp [Token.imageAttributes?, plain]

/-! ## Images of the note -/

/-- The attributes of an image on the page, made from `image`, which is the first below the element
    `e` of the note.  They have this source. -/
inductive ShowsImage (e image : Element) (source : String) : List (String × String) → Prop where
  | block (kind : e.blockKind = .image) (first : e.find? (·.tag == "img") = some image) :
      ShowsImage e image source
        [("src", source), ("title", (image.attributes.lookup "title").getD ""),
          ("style", (image.attributes.lookup "style").getD "")]
  | inline (kind : e.inlineKind = .image) (first : e.find? (·.tag == "img") = some image) :
      ShowsImage e image source
        [("src", source), ("alt", (image.attributes.lookup "alt").getD ""),
          ("title", (image.attributes.lookup "title").getD "")]

section

variable [UrlReader] {options : Options}

/-- The images among nodes of a page are made from some of these elements, in the same order. -/
def ImagesFrom (options : Options) (nodes : List Node) (elements : List Element) : Prop :=
  List.SublistForall₂
    (fun attributes e => ∃ image, ShowsImage e image (image.imageSource options) attributes)
    (pageImages nodes) elements

theorem ImagesFrom.mono {nodes : List Node} {elements others : List Element}
    (images : ImagesFrom options nodes elements) (more : elements.Sublist others) :
    ImagesFrom options nodes others := by
  obtain ⟨shown, related, sublist⟩ := List.sublistForall₂_iff.mp images
  exact List.sublistForall₂_iff.mpr ⟨shown, related, sublist.trans more⟩

theorem ImagesFrom.skip {nodes : List Node} {elements : List Element}
    (images : ImagesFrom options nodes elements) (e : Element) :
    ImagesFrom options nodes (e :: elements) :=
  .cons_right images

theorem ImagesFrom.append {nodes more : List Node} {elements others : List Element}
    (images : ImagesFrom options nodes elements) (moreImages : ImagesFrom options more others) :
    ImagesFrom options (nodes ++ more) (elements ++ others) := by
  obtain ⟨shown, related, sublist⟩ := List.sublistForall₂_iff.mp images
  obtain ⟨moreShown, moreRelated, moreSublist⟩ := List.sublistForall₂_iff.mp moreImages
  rw [ImagesFrom, pageImages_append]
  exact List.sublistForall₂_iff.mpr
    ⟨shown ++ moreShown, List.rel_append related moreRelated, sublist.append moreSublist⟩

theorem imagesFrom_ofText (s : String) (elements : List Element) :
    ImagesFrom options (Node.ofText s) elements := by
  rw [ImagesFrom, pageImages_ofText]
  exact .nil

theorem imagesFrom_tagged {tag : String} (plain : tag ≠ "img") (attributes : List (String × String))
    {children : List Node} {elements : List Element}
    (content : ImagesFrom options children elements) :
    ImagesFrom options [tagged tag attributes children] elements := by
  rw [ImagesFrom, pageImages_tagged plain]
  split
  · exact .nil
  · exact content

mutual

theorem Element.imagesFrom_renderInline (options : Options) :
    ∀ e : Element, ImagesFrom options (e.renderInline options) (e :: e.descendants)
  | ⟨tag, attributes, children⟩ => by
    have content := (imagesFrom_renderInlines options children).skip
      ⟨tag, attributes, children⟩
    rw [Element.renderInline, Element.descendants]
    cases kind : Element.inlineKind ⟨tag, attributes, children⟩ <;> simp only
    case image =>
      cases found : Element.firstImage? ⟨tag, attributes, children⟩ with
      | none => exact .nil
      | some image => exact .cons ⟨image, .inline kind found⟩ .nil
    case math => exact imagesFrom_tagged (by decide) _ (imagesFrom_ofText _ _)
    case memo =>
      split
      · exact .nil
      · have mark : ImagesFrom options [tagged "sup" [] []] [] :=
          imagesFrom_tagged (by decide) _ .nil
        simpa using content.append mark
    case lineBreak => exact imagesFrom_tagged (by decide) _ .nil
    all_goals first
      | exact content
      | exact imagesFrom_tagged (by decide) _ content

/-- The images inside a block are made from elements inside it. -/
theorem imagesFrom_renderInlines (options : Options) :
    ∀ nodes : List Node, ImagesFrom options (renderInlines options nodes) (descendantsOf nodes)
  | [] => .nil
  | node :: nodes => by
    rw [renderInlines, descendantsOf]
    exact (Node.imagesFrom_renderInline options node).append
      (imagesFrom_renderInlines options nodes)

theorem Node.imagesFrom_renderInline (options : Options) :
    ∀ node : Node, ImagesFrom options (node.renderInline options) node.elements
  | .element e => Element.imagesFrom_renderInline options e
  | .text s => imagesFrom_ofText s _

end

theorem Element.imagesFrom_inlineContent (options : Options) (e : Element) :
    ImagesFrom options (e.inlineContent options) e.descendants :=
  (imagesFrom_renderInlines options e.editableContent).mono e.sublist_editableContent

mutual

theorem Element.imagesFrom_renderList (options : Options) :
    ∀ e : Element, ImagesFrom options [e.renderList options] e.descendants
  | ⟨tag, attributes, children⟩ => by
    rw [Element.renderList, Element.descendants]
    refine imagesFrom_tagged ?_ _ (imagesFrom_renderItems options children)
    obtain named | named := Element.listTag_eq ⟨tag, attributes, children⟩ <;> rw [named] <;> decide

theorem imagesFrom_renderItems (options : Options) :
    ∀ nodes : List Node, ImagesFrom options (renderItems options nodes) (descendantsOf nodes)
  | [] => .nil
  | node :: nodes => by
    rw [renderItems, descendantsOf]
    exact (Node.imagesFrom_renderItem options node).append (imagesFrom_renderItems options nodes)

theorem Node.imagesFrom_renderItem (options : Options) :
    ∀ node : Node, ImagesFrom options (node.renderItem options) node.elements
  | .text _ => .nil
  | .element e => by
    rw [Node.renderItem, Node.elements]
    split
    · exact (Element.imagesFrom_renderListItem options e).skip e
    · exact .nil

theorem Element.imagesFrom_renderListItem (options : Options) :
    ∀ e : Element, ImagesFrom options [e.renderListItem options] e.descendants
  | ⟨_, _, children⟩ => by
    rw [Element.renderListItem, Element.descendants]
    exact imagesFrom_tagged (by decide) _ (imagesFrom_renderItemContent options children)

theorem imagesFrom_renderItemContent (options : Options) :
    ∀ nodes : List Node,
      ImagesFrom options (renderItemContent options nodes) (descendantsOf nodes)
  | [] => .nil
  | node :: nodes => by
    rw [renderItemContent, descendantsOf]
    exact (Node.imagesFrom_renderItemPart options node).append
      (imagesFrom_renderItemContent options nodes)

theorem Node.imagesFrom_renderItemPart (options : Options) :
    ∀ node : Node, ImagesFrom options (node.renderItemPart options) node.elements
  | .text _ => .nil
  | .element e => by
    rw [Node.renderItemPart, Node.elements]
    split
    · exact (e.imagesFrom_inlineContent options).skip e
    · exact (Element.imagesFrom_renderList options e).skip e
    · exact .nil

end

theorem imagesFrom_pre (outer inner : List (String × String)) (text : String)
    (elements : List Element) :
    ImagesFrom options [tagged "pre" outer [tagged "code" inner (Node.ofText text)]] elements :=
  imagesFrom_tagged (by decide) _ (imagesFrom_tagged (by decide) _ (imagesFrom_ofText text _))

mutual

theorem Element.imagesFrom_renderBlock (options : Options) :
    ∀ e : Element, (∀ block ∈ e.blocks, block.blockKind ≠ .table) →
      ImagesFrom options (e.renderBlock options) (e :: e.descendants)
  | ⟨tag, attributes, children⟩, noTable => by
    have content := (Element.imagesFrom_inlineContent options
      ⟨tag, attributes, children⟩).skip ⟨tag, attributes, children⟩
    rw [Element.blocks] at noTable
    rw [Element.renderBlock]
    cases kind : Element.blockKind ⟨tag, attributes, children⟩ <;> simp only [kind] at noTable ⊢
    case heading =>
      have headings : ∀ tag ∈ headingTags, tag ≠ "img" := by decide
      exact imagesFrom_tagged (headings _ (Element.headingTag_mem _)) _ content
    case paragraph =>
      simp only [renderParagraph]
      split
      · exact .nil
      · exact imagesFrom_tagged (by decide) _ content
    case list => exact (Element.imagesFrom_renderList options _).skip _
    case listItem => exact (Element.imagesFrom_renderListItem options _).skip _
    case blockquote => exact imagesFrom_tagged (by decide) _ content
    case codeBlock =>
      rw [renderCodeBlock]
      split
      · exact imagesFrom_pre _ _ _ _
      · exact imagesFrom_pre _ _ _ _
    case image =>
      cases found : Element.firstImage? ⟨tag, attributes, children⟩ with
      | none => exact .nil
      | some image => exact .cons ⟨image, .block kind found⟩ .nil
    case table => exact absurd kind (noTable _ List.mem_cons_self)
    case mathBlock => exact imagesFrom_pre _ _ _ _
    case unrecognized =>
      have nested := imagesFrom_renderBlocks options children fun block h =>
        noTable block (List.mem_cons_of_mem _ h)
      split
      · exact content
      · rw [Element.descendants]
        exact nested.skip _

/-- The images of the page are made from elements of the note. -/
theorem imagesFrom_renderBlocks (options : Options) :
    ∀ nodes : List Node, (∀ block ∈ blocksOf nodes, block.blockKind ≠ .table) →
      ImagesFrom options (renderBlocks options nodes) (descendantsOf nodes)
  | [], _ => .nil
  | node :: nodes, noTable => by
    rw [blocksOf] at noTable
    obtain ⟨own, others⟩ := List.forall_mem_append.mp noTable
    rw [renderBlocks, descendantsOf]
    exact (Node.imagesFrom_renderBlock options node own).append
      (imagesFrom_renderBlocks options nodes others)

theorem Node.imagesFrom_renderBlock (options : Options) :
    ∀ node : Node, (∀ block ∈ node.blocks, block.blockKind ≠ .table) →
      ImagesFrom options (node.renderBlock options) node.elements
  | .element e, noTable => Element.imagesFrom_renderBlock options e noTable
  | .text _, _ => .nil

end

theorem Element.imagesFrom_render (options : Options) {root : Element}
    (noTable : ∀ e ∈ root.descendants, e.dataType? ≠ some "NodeTable") :
    ImagesFrom options (root.render options) root.descendants := by
  rw [root.descendants_eq]
  exact imagesFrom_renderBlocks options root.children (blockKind_ne_table noTable)

end

/-! ## No image from another host -/

theorem imageTagsOf_pageMarkup [UrlReader] (options : Options) {root : Element}
    (noTable : ∀ e ∈ root.descendants, e.dataType? ≠ some "NodeTable") :
    imageTagsOf (root.pageMarkup options) = pageImages (root.render options) := by
  rw [root.pageMarkup_eq, imageTagsOf_printNodes fun node h =>
    (isBlock_of_mem_render options noTable node h).isPagePart.wellFormed]

/-- The reference that the note stores for an image: its `data-src`, or its `src` if that is missing
    or empty. -/
def Element.StoresReference (image : Element) (reference : String) : Prop :=
  (image.attributes.lookup "data-src" = some reference ∧ reference ≠ "") ∨
    ((image.attributes.lookup "data-src").getD "" = "" ∧
      reference = (image.attributes.lookup "src").getD "")

theorem Element.getD_attrNonEmpty? (e : Element) (name : String) :
    (e.attrNonEmpty? name).getD "" = (e.attributes.lookup name).getD "" := by
  rw [Element.attrNonEmpty?, Element.attr?]
  cases e.attributes.lookup name with
  | none => rfl
  | some value => by_cases empty : value = "" <;> simp [empty, Option.filter]

theorem Element.storesReference_storedReference (image : Element) :
    image.StoresReference image.storedReference := by
  rw [Element.storedReference]
  cases found : image.attrNonEmpty? "data-src" with
  | none =>
    refine .inr ⟨?_, ?_⟩
    · rw [← image.getD_attrNonEmpty?, found, Option.getD_none]
    · rw [Option.none_or, image.getD_attrNonEmpty?]
  | some reference =>
    rw [Element.attrNonEmpty?, Option.filter_eq_some_iff] at found
    exact .inl ⟨found.1, by simpa using found.2⟩

/-- Where images are moved to a path of the page's own host, the images of a page without tables are
    those of the note in document order, each the first below one element, and none is fetched from
    another host: its source, with entities read, is no URL of the web and has not the shape of one
    either.  It is the reference that the note stores for this image, or stands below the path. -/
theorem exists_path_of_imageTagsOf [UrlReader] (reads : ReadsAbsolute UrlReader.parse?)
    (options : Options) (moves : options.moveImages = true)
    (own : ∀ first ∈ options.imagePrefix.toList.head?, first = '/') {root : Element}
    (noTable : ∀ e ∈ root.descendants, e.dataType? ≠ some "NodeTable") :
    ∃ path slashes : String, options.imagePrefix = path ++ slashes ∧
      (∀ c ∈ slashes.toList, c = '/') ∧ path.toList.getLast? ≠ some '/' ∧
      List.SublistForall₂
        (fun attributes e => ∃ image source, ShowsImage e image source attributes ∧
          IsLocal UrlReader.parse? source ∧
          (image.StoresReference source ∨ (path ++ "/").toList <+: source.toList))
        (imageTagsOf (root.pageMarkup options)) root.descendants := by
  obtain ⟨slashes, whole, allSlashes⟩ := exists_slashes options.imagePrefix
  refine ⟨_, slashes, whole, allSlashes, getLast?_trimSlashes options.imagePrefix, ?_⟩
  rw [imageTagsOf_pageMarkup options noTable]
  obtain ⟨shown, related, sublist⟩ :=
    List.sublistForall₂_iff.mp (Element.imagesFrom_render options noTable)
  refine List.sublistForall₂_iff.mpr ⟨shown, related.imp ?_, sublist⟩
  rintro attributes e ⟨image, shows⟩
  have moved : image.imageSource options =
      proxiedBy UrlReader.parse? options.imagePrefix image.storedReference := if_pos moves
  rw [moved] at shows
  refine ⟨image, _, shows, isLocal_proxiedBy reads own image.storedReference, ?_⟩
  obtain ⟨rest, below⟩ | ⟨same, -⟩ :=
    proxiedBy_eq_or reads options.imagePrefix image.storedReference
  · exact .inr ⟨rest, by simp [below]⟩
  · rw [same]
    exact .inl image.storesReference_storedReference

def imageNote : Element :=
  ⟨rootTag, [],
    [.element ⟨"div", [("data-type", "NodeParagraph")],
      [.element ⟨"span", [("data-type", "img")],
        [.element ⟨"img", [("data-src", "http://[bad/x/y.png")], []⟩]⟩]⟩,
    .element ⟨"div", [("data-type", "NodeImage")],
      [.element ⟨"img", [("data-src", ""), ("src", "b.png")], []⟩]⟩]⟩

theorem exists_path_of_imageTagsOf_imageNote :
    (∀ first ∈ "//own/".toList.head?, first = '/') ∧
    (∀ e ∈ imageNote.descendants, e.dataType? ≠ some "NodeTable") ∧
    imageTagsOf (imageNote.pageMarkup ⟨"//own/", true⟩) =
      [[("src", "//own/x/y.png"), ("alt", ""), ("title", "")],
        [("src", "b.png"), ("title", ""), ("style", "")]] ∧
    ∃ path slashes : String, "//own/" = path ++ slashes ∧
      (∀ c ∈ slashes.toList, c = '/') ∧ path.toList.getLast? ≠ some '/' ∧
      List.SublistForall₂
        (fun attributes e => ∃ image source, ShowsImage e image source attributes ∧
          IsLocal WebUrl.parse? source ∧
          (image.StoresReference source ∨ (path ++ "/").toList <+: source.toList))
        (imageTagsOf (imageNote.pageMarkup ⟨"//own/", true⟩)) imageNote.descendants := by
  have own : ∀ first ∈ "//own/".toList.head?, first = '/' :=
    fun _ h => (Option.some.inj h).symm
  have noTable : ∀ e ∈ imageNote.descendants, e.dataType? ≠ some "NodeTable" := by decide
  have shown : imageTagsOf (imageNote.pageMarkup ⟨"//own/", true⟩) =
      [[("src", "//own/x/y.png"), ("alt", ""), ("title", "")],
        [("src", "b.png"), ("title", ""), ("style", "")]] := by
    rw [imageTagsOf_pageMarkup _ noTable]
    decide +kernel
  exact ⟨own, noTable, shown, exists_path_of_imageTagsOf
    WebUrl.readsAbsolute_parse? ⟨"//own/", true⟩ rfl own noTable⟩

end NoteMarkup
