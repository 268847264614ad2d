import Mathlib.Data.List.Forall2
import NoteMarkup.Proofs.Page.ImageSource
import NoteMarkup.Proofs.Page.WellFormed

/-!
# What options change

Options decide where images are fetched from and nothing else: two pages of one note differ in the
sources of its images only, and what is left out of one page is left out of the other.

- `sameButSources_renderInlines` and `sameBlock_renderBlocks` follow a note along both pages;
- `transform_sameBlock` is the statement about the markup of whole notes.
-/

namespace NoteMarkup

/-! ## Two pages -/

/-- The image is put on the page of a note with these elements: it is the first below one that is
    an image there, as a block or inside one. -/
def IsShownImage (note : List Element) (image : Element) : Prop :=
  ∃ e ∈ note, (e.blockKind = .image ∨ e.inlineKind = .image) ∧ e.firstImage? = some image

/-- The nodes stand at the same place of the pages that two options make of a note, and differ in
    the sources of its images only.  There are no other images. -/
inductive Node.SameButSources [UrlReader] (first second : Options) (note : List Element) :
    Node → Node → Prop where
  | text (s : String) : SameButSources first second note (.text s) (.text s)
  | element {tag : String} (attributes : List (String × String)) {children others : List Node}
      (plain : tag ≠ "img")
      (content : List.Forall₂ (SameButSources first second note) children others) :
      SameButSources first second note (.element ⟨tag, attributes, children⟩)
        (.element ⟨tag, attributes, others⟩)
  | image {image : Element} (attributes : List (String × String)) (shown : IsShownImage note image) :
      SameButSources first second note
        (.element ⟨"img", ("src", image.imageSource first) :: attributes, []⟩)
        (.element ⟨"img", ("src", image.imageSource second) :: attributes, []⟩)

abbrev SameButSources [UrlReader] (first second : Options) (note : List Element) :
    List Node → List Node → Prop :=
  List.Forall₂ (Node.SameButSources first second note)

/-- The nodes are one table of the note, without its scripts, or differ in the sources of images
    only. -/
inductive SameBlock [UrlReader] (first second : Options) (note : List Element) :
    Node → Node → Prop where
  | table {node : Node} (kept : IsTableOf note node) : SameBlock first second note node node
  | block {node other : Node} (same : node.SameButSources first second note other) :
      SameBlock first second note node other

section

variable [UrlReader] {first second : Options} {note : List Element}

theorem sameButSources_tagged {tag : String} {children others : List Node} (plain : tag ≠ "img")
    (attributes : List (String × String)) (content : SameButSources first second note children others) :
    SameButSources first second note [tagged tag attributes children] [tagged tag attributes others] :=
  .cons (.element attributes plain content) .nil

theorem sameButSources_ofText (s : String) :
    SameButSources first second note (Node.ofText s) (Node.ofText s) := by
  unfold Node.ofText
  split
  · exact .nil
  · exact .cons (.text s) .nil

theorem sameButSources_images {image? : Option Element}
    (shown : ∀ image ∈ image?, IsShownImage note image)
    (attributes : Element → List (String × String)) :
    SameButSources first second note
      (image?.map fun image =>
        tagged "img" (("src", image.imageSource first) :: attributes image) []).toList
      (image?.map fun image =>
        tagged "img" (("src", image.imageSource second) :: attributes image) []).toList := by
  cases image? with
  | none => exact .nil
  | some image => exact .cons (.image (attributes image) (shown image rfl)) .nil

/-- Sources are not looked at to tell whether content shows anything. -/
theorem SameButSources.isBlankContent_eq {nodes others : List Node}
    (same : SameButSources first second note nodes others) :
    isBlankContent nodes = isBlankContent others := by
  unfold isBlankContent
  induction same with
  | nil => rfl
  | cons node _ ih =>
    rw [List.all_cons, List.all_cons, ih]
    cases node <;> rfl

mutual

theorem Element.sameButSources_renderInline :
    ∀ {e : Element}, (Node.element e).elements ⊆ note →
      SameButSources first second note (e.renderInline first) (e.renderInline second)
  | ⟨tag, attributes, children⟩, inside => by
    obtain ⟨own, below⟩ := List.cons_subset.mp inside
    rw [Element.descendants] at below
    have content := sameButSources_renderInlines below
    rw [Element.renderInline, Element.renderInline]
    cases kind : Element.inlineKind ⟨tag, attributes, children⟩ <;> simp only
    case image => exact sameButSources_images (fun image found => ⟨_, own, .inr kind, found⟩) _
    case math => exact sameButSources_tagged (by decide) _ (sameButSources_ofText _)
    case memo =>
      -- content that is nothing on one page is nothing on the other
      generalize renderInlines first children = nodes at content
      generalize renderInlines second children = others at content
      cases content with
      | nil => exact .nil
      | cons node nodes =>
        exact List.rel_append (.cons node nodes) (sameButSources_tagged (by decide) _ .nil)
    case lineBreak => exact sameButSources_tagged (by decide) _ .nil
    all_goals first
      | exact content
      | exact sameButSources_tagged (by decide) _ content

/-- The content of a block differs in the sources of images only. -/
theorem sameButSources_renderInlines :
    ∀ {nodes : List Node}, descendantsOf nodes ⊆ note →
      SameButSources first second note (renderInlines first nodes) (renderInlines second nodes)
  | [], _ => .nil
  | node :: nodes, inside => by
    rw [descendantsOf] at inside
    obtain ⟨own, behind⟩ := List.append_subset.mp inside
    rw [renderInlines, renderInlines]
    exact List.rel_append (Node.sameButSources_renderInline own) (sameButSources_renderInlines behind)

theorem Node.sameButSources_renderInline :
    ∀ {node : Node}, node.elements ⊆ note →
      SameButSources first second note (node.renderInline first) (node.renderInline second)
  | .element _, inside => Element.sameButSources_renderInline inside
  | .text s, _ => sameButSources_ofText s

end

theorem Element.sameButSources_inlineContent {e : Element} (inside : e.descendants ⊆ note) :
    SameButSources first second note (e.inlineContent first) (e.inlineContent second) :=
  sameButSources_renderInlines fun _ h => inside (e.sublist_editableContent.subset h)

mutual

theorem Element.sameButSources_renderList :
    ∀ {e : Element}, e.descendants ⊆ note →
      SameButSources first second note [e.renderList first] [e.renderList second]
  | ⟨tag, attributes, children⟩, inside => by
    rw [Element.descendants] at inside
    rw [Element.renderList, Element.renderList]
    refine sameButSources_tagged ?_ _ (sameButSources_renderItems inside)
    obtain listTag | listTag := Element.listTag_eq ⟨tag, attributes, children⟩ <;> rw [listTag] <;>
      decide

theorem sameButSources_renderItems :
    ∀ {nodes : List Node}, descendantsOf nodes ⊆ note →
      SameButSources first second note (renderItems first nodes) (renderItems second nodes)
  | [], _ => .nil
  | node :: nodes, inside => by
    rw [descendantsOf] at inside
    obtain ⟨own, behind⟩ := List.append_subset.mp inside
    rw [renderItems, renderItems]
    exact List.rel_append (Node.sameButSources_renderItem own) (sameButSources_renderItems behind)

theorem Node.sameButSources_renderItem :
    ∀ {node : Node}, node.elements ⊆ note →
      SameButSources first second note (node.renderItem first) (node.renderItem second)
  | .text _, _ => .nil
  | .element e, inside => by
    rw [Node.renderItem, Node.renderItem]
    split
    · exact Element.sameButSources_renderListItem (List.cons_subset.mp inside).2
    · exact .nil

theorem Element.sameButSources_renderListItem :
    ∀ {e : Element}, e.descendants ⊆ note →
      SameButSources first second note [e.renderListItem first] [e.renderListItem second]
  | ⟨_, _, children⟩, inside => by
    rw [Element.descendants] at inside
    rw [Element.renderListItem, Element.renderListItem]
    exact sameButSources_tagged (by decide) _ (sameButSources_renderItemContent inside)

theorem sameButSources_renderItemContent :
    ∀ {nodes : List Node}, descendantsOf nodes ⊆ note →
      SameButSources first second note (renderItemContent first nodes)
        (renderItemContent second nodes)
  | [], _ => .nil
  | node :: nodes, inside => by
    rw [descendantsOf] at inside
    obtain ⟨own, behind⟩ := List.append_subset.mp inside
    rw [renderItemContent, renderItemContent]
    exact List.rel_append (Node.sameButSources_renderItemPart own)
      (sameButSources_renderItemContent behind)

theorem Node.sameButSources_renderItemPart :
    ∀ {node : Node}, node.elements ⊆ note →
      SameButSources first second note (node.renderItemPart first) (node.renderItemPart second)
  | .text _, _ => .nil
  | .element e, inside => by
    have below := (List.cons_subset.mp inside).2
    rw [Node.renderItemPart, Node.renderItemPart]
    cases e.blockKind <;> simp only
    case paragraph => exact Element.sameButSources_inlineContent below
    case list => exact Element.sameButSources_renderList below
    all_goals exact .nil

end

theorem Element.sameButSources_renderHeading {e : Element} (inside : e.descendants ⊆ note) :
    SameButSources first second note [renderHeading first e] [renderHeading second e] := by
  have plain : ∀ tag ∈ headingTags, tag ≠ "img" := by decide
  exact sameButSources_tagged (plain _ e.headingTag_mem) _ (e.sameButSources_inlineContent inside)

theorem Element.sameButSources_renderParagraph {e : Element} (inside : e.descendants ⊆ note) :
    SameButSources first second note (renderParagraph first e) (renderParagraph second e) := by
  have content : SameButSources first second note (e.inlineContent first) (e.inlineContent second) :=
    e.sameButSources_inlineContent inside
  simp only [renderParagraph, content.isBlankContent_eq]
  split
  · exact .nil
  · exact sameButSources_tagged (by decide) _ content

theorem sameButSources_renderSource (subtype? : Option String) (e : Element) :
    SameButSources first second note [renderSource subtype? e] [renderSource subtype? e] :=
  sameButSources_tagged (by decide) _
    (sameButSources_tagged (by decide) _ (sameButSources_ofText _))

theorem sameButSources_renderCodeBlock (e : Element) :
    SameButSources first second note [renderCodeBlock e] [renderCodeBlock e] := by
  unfold renderCodeBlock
  split
  · exact sameButSources_renderSource _ e
  · exact sameButSources_tagged (by decide) _
      (sameButSources_tagged (by decide) _ (sameButSources_ofText _))

theorem SameButSources.blocks {nodes others : List Node}
    (same : SameButSources first second note nodes others) :
    List.Forall₂ (SameBlock first second note) nodes others :=
  same.imp fun _ _ => .block

mutual

theorem Element.sameBlock_renderBlock :
    ∀ {e : Element}, (Node.element e).elements ⊆ note →
      List.Forall₂ (SameBlock first second note) (e.renderBlock first) (e.renderBlock second)
  | ⟨tag, attributes, children⟩, inside => by
    obtain ⟨own, below⟩ := List.cons_subset.mp inside
    have content : SameButSources first second note
        (Element.inlineContent first ⟨tag, attributes, children⟩)
        (Element.inlineContent second ⟨tag, attributes, children⟩) :=
      Element.sameButSources_inlineContent below
    rw [Element.descendants] at below
    have nested := sameBlock_renderBlocks below
    rw [Element.renderBlock, Element.renderBlock]
    cases kind : Element.blockKind ⟨tag, attributes, children⟩ <;> simp only
    case heading => exact (Element.sameButSources_renderHeading below).blocks
    case paragraph => exact (Element.sameButSources_renderParagraph below).blocks
    case list => exact (Element.sameButSources_renderList below).blocks
    case listItem => exact (Element.sameButSources_renderListItem below).blocks
    case blockquote => exact (sameButSources_tagged (by decide) _ content).blocks
    case codeBlock => exact (sameButSources_renderCodeBlock _).blocks
    case image =>
      exact (sameButSources_images (fun image found => ⟨_, own, .inl kind, found⟩) _).blocks
    case table => exact .cons (.table ⟨_, own, kind, rfl⟩) .nil
    case mathBlock => exact (sameButSources_renderSource _ _).blocks
    case unrecognized =>
      generalize renderBlocks first children = nodes at nested
      generalize renderBlocks second children = others at nested
      cases nested with
      | nil => exact content.blocks
      | cons node nodes => exact .cons node nodes

/-- The blocks of two pages of one note are the same but for the sources of images. -/
theorem sameBlock_renderBlocks :
    ∀ {nodes : List Node}, descendantsOf nodes ⊆ note →
      List.Forall₂ (SameBlock first second note) (renderBlocks first nodes)
        (renderBlocks second nodes)
  | [], _ => .nil
  | node :: nodes, inside => by
    rw [descendantsOf] at inside
    obtain ⟨own, behind⟩ := List.append_subset.mp inside
    rw [renderBlocks, renderBlocks]
    exact List.rel_append (Node.sameBlock_renderBlock own) (sameBlock_renderBlocks behind)

theorem Node.sameBlock_renderBlock :
    ∀ {node : Node}, node.elements ⊆ note →
      List.Forall₂ (SameBlock first second note) (node.renderBlock first) (node.renderBlock second)
  | .element _, inside => Element.sameBlock_renderBlock inside
  | .text _, _ => .nil

end

theorem sameBlock_render (root : Element) :
    List.Forall₂ (SameBlock first second root.descendants) (root.render first)
      (root.render second) := by
  rw [Element.descendants_eq]
  exact sameBlock_renderBlocks (List.Subset.refl _)

end

/-! ## Equal pages -/

def SameSources [UrlReader] (first second : Options) : Prop :=
  ∀ image : Element, image.imageSource first = image.imageSource second

section

variable [UrlReader] {first second : Options} {note : List Element}

theorem sameSources_of_moveImages_eq_false (stays : first.moveImages = false)
    (staysToo : second.moveImages = false) : SameSources first second := by
  intro image
  rw [Element.imageSource, Element.imageSource, stays, staysToo, if_neg Bool.false_ne_true,
    if_neg Bool.false_ne_true]

theorem sameSources_of_trimSlashes_eq (moves : first.moveImages = true)
    (movesToo : second.moveImages = true)
    (same : trimSlashes first.imagePrefix = trimSlashes second.imagePrefix) :
    SameSources first second := by
  intro image
  rw [Element.imageSource, Element.imageSource, moves, movesToo, proxied_congr same]

mutual

theorem Node.SameButSources.eq (sources : SameSources first second) :
    ∀ {node other : Node}, node.SameButSources first second note other → node = other
  | _, _, .text _ => rfl
  | _, _, .element _ _ content => by rw [SameButSources.eq sources content]
  | _, _, .image _ _ => by rw [sources]

theorem SameButSources.eq (sources : SameSources first second) :
    ∀ {nodes others : List Node}, SameButSources first second note nodes others → nodes = others
  | _, _, .nil => rfl
  | _, _, .cons node content => by
    rw [Node.SameButSources.eq sources node, SameButSources.eq sources content]

end

theorem SameBlock.eq {node other : Node} (same : SameBlock first second note node other)
    (sources : SameSources first second) : node = other := by
  cases same with
  | table => rfl
  | block same => exact same.eq sources

theorem SameSources.render_eq (sources : SameSources first second) (root : Element) :
    root.render first = root.render second := by
  have same : List.Forall₂ (· = ·) (root.render first) (root.render second) :=
    (sameBlock_render root).imp fun _ _ block => block.eq sources
  rwa [List.forall₂_eq_eq_eq] at same

end

/-- The pages of one note under any two options are the markup of nodes that correspond one by one:
    a table is the same on both, and anything else differs in the sources of images only.  The pages
    are the same if neither moves images, whatever the paths, and if both do and the paths are the
    same up to slashes at the end. -/
theorem transform_sameBlock [UrlReader] (first second : Options) (markup : String) :
    (∃ page other, transform first markup = printNodes page ∧
      transform second markup = printNodes other ∧
      List.Forall₂ (SameBlock first second (parse markup).descendants) page other) ∧
    (first.moveImages = false → second.moveImages = false →
      transform first markup = transform second markup) ∧
    (first.moveImages = true → second.moveImages = true →
      trimSlashes first.imagePrefix = trimSlashes second.imagePrefix →
      transform first markup = transform second markup) := by
  refine ⟨⟨_, _, transform_eq first markup, transform_eq second markup, sameBlock_render _⟩,
    fun stays staysToo => ?_, fun moves movesToo same => ?_⟩
  · rw [transform_eq, transform_eq, (sameSources_of_moveImages_eq_false stays staysToo).render_eq]
  · rw [transform_eq, transform_eq, (sameSources_of_trimSlashes_eq moves movesToo same).render_eq]

/-- An image on another host, in a block that is not closed. -/
theorem transform_sameBlock_slashes :
    trimSlashes "/image" = trimSlashes "/image//" ∧
    transform {} "<div data-type=NodeImage><img data-src=https://h.example/a.png>" =
      transform ⟨"/image//", true⟩
        "<div data-type=NodeImage><img data-src=https://h.example/a.png>" := by
  have same : trimSlashes "/image" = trimSlashes "/image//" := by decide
  exact ⟨same, (transform_sameBlock {} ⟨"/image//", true⟩ _).2.2 rfl rfl same⟩

end NoteMarkup
