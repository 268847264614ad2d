import NoteMarkup.Outline
import NoteMarkup.Proofs.Page.WellFormed
import NoteMarkup.Proofs.Tree.Place
import NoteMarkup.Proofs.Tree.Tokens

/-!
# Headings of a page and of an outline

The headings that the markup of a page shows are headings of the outline, in the same order, with
the same levels and identifiers.  Where no heading is hidden in a block of another known kind, they
are all of them.

- `pageHeadings_renderBlocks` finds the headings of a page among the blocks of the note;
- `sublist_outlineOf` and `filterMap_blocksOf_eq` compare these blocks with the outline;
- `sublist_headingsOf_pageMarkup` is the statement about pages.
-/

namespace NoteMarkup

/-! ## Headings of markup -/

def pageLevelOf? (tag : String) : Option Nat :=
  (headingTags.idxOf? tag).map (· + 1)

def Token.heading? : Token → Option (Nat × Option String)
  | .opening tag attributes _ =>
    (pageLevelOf? tag).map fun level => (level, attributes.lookup "id")
  | _ => none

def headingsOf (markup : String) : List (Nat × Option String) :=
  (lexemes markup).filterMap fun lexeme => lexeme.token.heading?

def pageHeadings (nodes : List Node) : List (Nat × Option String) :=
  (tokensOf nodes).filterMap Token.heading?

theorem headingsOf_printNodes {nodes : List Node} (wf : ∀ node ∈ nodes, node.WellFormed) :
    headingsOf (printNodes nodes) = pageHeadings nodes :=
  filterMap_lexemes_printNodes (fun _ => rfl) wf

@[simp]
theorem pageHeadings_nil : pageHeadings [] = [] := rfl

theorem pageHeadings_append (nodes more : List Node) :
    pageHeadings (nodes ++ more) = pageHeadings nodes ++ pageHeadings more := by
  rw [pageHeadings, tokensOf_append, List.filterMap_append]
  rfl

theorem pageHeadings_cons (node : Node) (nodes : List Node) :
    pageHeadings (node :: nodes) = pageHeadings [node] ++ pageHeadings nodes :=
  pageHeadings_append [node] nodes

theorem pageHeadings_element (tag : String) (attributes : List (String × String))
    (children : List Node) :
    pageHeadings [.element ⟨tag, attributes, children⟩] =
      ((pageLevelOf? tag).map fun level => (level, attributes.lookup "id")).toList ++
        if isVoidTag tag then [] else pageHeadings children := by
  simp only [pageHeadings, tokensOf, Node.tokens, Element.tokens, List.append_nil]
  cases level : pageLevelOf? tag <;> cases void : isVoidTag tag <;> simp [Token.heading?, level]

theorem pageHeadings_eq_nil {nodes : List Node} (free : ∀ node ∈ nodes, pageHeadings [node] = []) :
    pageHeadings nodes = [] := by
  induction nodes with
  | nil => rfl
  | cons node nodes ih =>
    obtain ⟨own, others⟩ := List.forall_mem_cons.mp free
    rw [pageHeadings_cons, own, ih others, List.append_nil]

theorem pageHeadings_of_not_mem {tag : String} (plain : tag ∉ headingTags)
    (attributes : List (String × String)) {children : List Node}
    (free : ∀ node ∈ children, pageHeadings [node] = []) :
    pageHeadings [.element ⟨tag, attributes, children⟩] = [] := by
  have level : pageLevelOf? tag = none := by
    rw [pageLevelOf?, List.idxOf?_eq_none_iff.mpr plain, Option.map_none]
  rw [pageHeadings_element, level, pageHeadings_eq_nil free, ite_self]
  rfl

theorem pageHeadings_of_mem_ofText {s : String} :
    ∀ node ∈ Node.ofText s, pageHeadings [node] = [] := by
  intro node h
  rw [(eq_text_of_mem_ofText h).1]
  rfl

theorem IsInline.pageHeadings {node : Node} (inner : IsInline node) : pageHeadings [node] = [] := by
  induction inner with
  | text => rfl
  | @formatting tag children known content ih =>
    have plain : ∀ tag ∈ formattingTags, tag ∉ headingTags := by decide
    exact pageHeadings_of_not_mem (plain tag known) _ ih
  | anchor href content ih => exact pageHeadings_of_not_mem (by decide) _ ih
  | math => exact pageHeadings_of_not_mem (by decide) _ pageHeadings_of_mem_ofText
  | image | memo | lineBreak => exact pageHeadings_of_not_mem (by decide) _ fun _ h => by cases h

mutual

theorem IsList.pageHeadings : ∀ {node : Node}, IsList node → pageHeadings [node] = []
  | _, .list known items => by
    refine pageHeadings_of_not_mem ?_ _ fun node h => (items node h).pageHeadings
    obtain rfl | rfl := known <;> decide

theorem IsItem.pageHeadings : ∀ {node : Node}, IsItem node → pageHeadings [node] = []
  | _, .item content => pageHeadings_of_not_mem (by decide) _ fun node h => (content node h).pageHeadings

theorem IsItemPart.pageHeadings : ∀ {node : Node}, IsItemPart node → pageHeadings [node] = []
  | _, .inline inner => inner.pageHeadings
  | _, .list inner => inner.pageHeadings

end

theorem pageHeadings_pre {outer inner : List (String × String)} {text : String} :
    pageHeadings [.element ⟨"pre", outer, [.element ⟨"code", inner, Node.ofText text⟩]⟩] = [] := by
  refine pageHeadings_of_not_mem (by decide) _ fun node h => ?_
  rw [List.mem_singleton.mp h]
  exact pageHeadings_of_not_mem (by decide) _ pageHeadings_of_mem_ofText

theorem Element.pageHeadings_inlineContent [UrlReader] (options : Options) (e : Element) :
    pageHeadings (e.inlineContent options) = [] :=
  pageHeadings_eq_nil fun node h => (Element.isInline_of_mem_inlineContent node h).pageHeadings

/-! ## Headings of the page are heading blocks -/

def Element.headingLink? (e : Element) : Option (Nat × Option String) :=
  if e.blockKind = .heading then some (e.headingLevel, e.headingId?) else none

theorem Element.headingLink?_of_ne {e : Element} (other : e.blockKind ≠ .heading) :
    e.headingLink? = none :=
  if_neg other

theorem pageLevelOf?_headingTag (e : Element) :
    pageLevelOf? ("h" ++ toString e.headingLevel) = some e.headingLevel := by
  obtain ⟨lower, upper⟩ := e.headingLevel_le
  have levels : ∀ level < 7, 1 ≤ level → pageLevelOf? ("h" ++ toString level) = some level := by
    decide
  exact levels _ (Nat.lt_succ_of_le upper) lower

theorem lookup_optionalAttribute (name : String) (value? : Option String) :
    (optionalAttribute name value?).lookup name = value? := by
  cases value? <;> simp [optionalAttribute]

theorem pageHeadings_renderHeading [UrlReader] (options : Options) (e : Element) :
    pageHeadings [renderHeading options e] = [(e.headingLevel, e.headingId?)] := by
  rw [renderHeading, tagged, pageHeadings_element, pageLevelOf?_headingTag,
    e.pageHeadings_inlineContent, lookup_optionalAttribute, ite_self]
  rfl

mutual

theorem Element.pageHeadings_renderBlock [UrlReader] (options : Options) :
    ∀ e : Element, (∀ block ∈ e.blocks, block.blockKind ≠ .table) →
      pageHeadings (e.renderBlock options) = e.blocks.filterMap Element.headingLink?
  | ⟨tag, attributes, children⟩, noTable => by
    rw [Element.blocks] at noTable ⊢
    rw [Element.renderBlock, List.filterMap_cons, Element.headingLink?]
    have content : ∀ node ∈ Element.inlineContent options ⟨tag, attributes, children⟩,
        pageHeadings [node] = [] := fun node h =>
      (Element.isInline_of_mem_inlineContent node h).pageHeadings
    cases kind : Element.blockKind ⟨tag, attributes, children⟩ <;> simp only [kind] at noTable ⊢
    case heading => exact pageHeadings_renderHeading options _
    case paragraph =>
      simp only [renderParagraph]
      split
      · rfl
      · exact pageHeadings_of_not_mem (by decide) _ content
    case list => exact (Element.isList_renderList options _).pageHeadings
    case listItem => exact (Element.isItem_renderListItem options _).pageHeadings
    case blockquote => exact pageHeadings_of_not_mem (by decide) _ content
    case codeBlock =>
      rw [renderCodeBlock]
      split
      · exact pageHeadings_pre
      · exact pageHeadings_pre
    case image =>
      cases Element.firstImage? ⟨tag, attributes, children⟩ with
      | none => rfl
      | some image => exact pageHeadings_of_not_mem (by decide) _ fun _ h => by cases h
    case table => exact absurd kind (noTable _ List.mem_cons_self)
    case mathBlock => exact pageHeadings_pre
    case unrecognized =>
      have nested := pageHeadings_renderBlocks options children fun block h =>
        noTable block (List.mem_cons_of_mem _ h)
      -- inline content stands in for blocks that come to nothing, and neither has a heading
      cases rendered : renderBlocks options children with
      | nil =>
        rw [rendered] at nested
        simpa [← nested] using pageHeadings_eq_nil content
      | cons first more =>
        rw [rendered] at nested
        simpa using nested

/-- The headings that blocks become are those among the blocks that are looked at. -/
theorem pageHeadings_renderBlocks [UrlReader] (options : Options) :
    ∀ nodes : List Node, (∀ block ∈ blocksOf nodes, block.blockKind ≠ .table) →
      pageHeadings (renderBlocks options nodes) = (blocksOf nodes).filterMap Element.headingLink?
  | [], _ => rfl
  | node :: nodes, noTable => by
    rw [blocksOf] at noTable ⊢
    obtain ⟨own, others⟩ := List.forall_mem_append.mp noTable
    rw [renderBlocks, pageHeadings_append, List.filterMap_append,
      Node.pageHeadings_renderBlock options node own, pageHeadings_renderBlocks options nodes others]

theorem Node.pageHeadings_renderBlock [UrlReader] (options : Options) :
    ∀ node : Node, (∀ block ∈ node.blocks, block.blockKind ≠ .table) →
      pageHeadings (node.renderBlock options) = node.blocks.filterMap Element.headingLink?
  | .element e, noTable => Element.pageHeadings_renderBlock options e noTable
  | .text _, _ => rfl

end

/-! ## Heading blocks of the outline -/

def OutlineEntry.link (entry : OutlineEntry) : Nat × Option String :=
  (entry.level, entry.id?)

mutual

theorem Element.sublist_outline :
    ∀ e : Element, (e.blocks.filterMap Element.headingLink?).Sublist
      ((Node.element e).outline.map OutlineEntry.link)
  | ⟨tag, attributes, children⟩ => by
    rw [Element.blocks, Node.outline, Element.outline]
    by_cases heading : Element.blockKind ⟨tag, attributes, children⟩ = .heading
    · simp [heading, Element.headingLink?, Element.outlineEntry, OutlineEntry.link]
    · rw [List.filterMap_cons_none (Element.headingLink?_of_ne heading), if_neg heading]
      split
      · exact sublist_outlineOf children
      · exact List.nil_sublist _

/-- The heading blocks that are looked at are listed in the outline, in this order. -/
theorem sublist_outlineOf :
    ∀ nodes : List Node, ((blocksOf nodes).filterMap Element.headingLink?).Sublist
      ((outlineOf nodes).map OutlineEntry.link)
  | [] => List.Sublist.slnil
  | node :: nodes => by
    rw [blocksOf, outlineOf, List.filterMap_append, List.map_append]
    exact (Node.sublist_outline node).append (sublist_outlineOf nodes)

theorem Node.sublist_outline :
    ∀ node : Node, (node.blocks.filterMap Element.headingLink?).Sublist
      (node.outline.map OutlineEntry.link)
  | .element e => Element.sublist_outline e
  | .text _ => List.Sublist.slnil

end

def ElementPlace.IsOutermostHeading (place : ElementPlace) : Prop :=
  place.element.blockKind = .heading ∧ ∀ e ∈ place.around, e.blockKind ≠ .heading

instance (place : ElementPlace) : Decidable place.IsOutermostHeading :=
  inferInstanceAs (Decidable (_ ∧ _))

mutual

theorem Element.exists_place_of_outline {around : List Element} :
    ∀ {e : Element}, (∀ outer ∈ around, outer.blockKind ≠ .heading) →
      (Node.element e).outline ≠ [] →
      ∃ place ∈ (Node.element e).places around, place.IsOutermostHeading ∧ around ⊆ place.around
  | ⟨tag, attributes, children⟩, outside, listed => by
    rw [Node.outline, Element.outline] at listed
    rw [Node.places, Element.placesIn]
    by_cases heading : Element.blockKind ⟨tag, attributes, children⟩ = .heading
    · exact ⟨_, List.mem_cons_self, ⟨heading, outside⟩, List.Subset.refl around⟩
    · rw [if_neg heading] at listed
      obtain ⟨place, member, outermost, within⟩ :=
        exists_place_of_outlineOf (List.forall_mem_cons.mpr ⟨heading, outside⟩) listed
      exact ⟨place, List.mem_cons_of_mem _ member, outermost,
        fun outer h => within (List.mem_cons_of_mem _ h)⟩

/-- An entry of the outline is there for a heading that is part of no other. -/
theorem exists_place_of_outlineOf {around : List Element} :
    ∀ {nodes : List Node}, (∀ outer ∈ around, outer.blockKind ≠ .heading) →
      outlineOf nodes ≠ [] →
      ∃ place ∈ placesOf around nodes, place.IsOutermostHeading ∧ around ⊆ place.around
  | [], _, listed => absurd rfl listed
  | node :: nodes, outside, listed => by
    rw [outlineOf, ne_eq, List.append_eq_nil_iff, not_and_or] at listed
    rw [placesOf]
    obtain listed | listed := listed
    · cases node with
      | text s => exact absurd rfl listed
      | element e =>
        obtain ⟨place, member, found⟩ := Element.exists_place_of_outline outside listed
        exact ⟨place, List.mem_append_left _ member, found⟩
    · obtain ⟨place, member, found⟩ := exists_place_of_outlineOf outside listed
      exact ⟨place, List.mem_append_right _ member, found⟩

end

/-- Every heading that is part of no other is looked at: no block around it is of a known kind. -/
def LookedAt (places : List ElementPlace) : Prop :=
  ∀ place ∈ places, place.IsOutermostHeading → ∀ e ∈ place.around, e.blockKind = .unrecognized

mutual

theorem Element.filterMap_blocks_eq {around : List Element}
    (unrecognized : ∀ outer ∈ around, outer.blockKind = .unrecognized) :
    ∀ e : Element, LookedAt ((Node.element e).places around) →
      e.blocks.filterMap Element.headingLink? = (Node.element e).outline.map OutlineEntry.link
  | ⟨tag, attributes, children⟩, lookedAt => by
    rw [Node.places, Element.placesIn] at lookedAt
    obtain ⟨-, inside⟩ := List.forall_mem_cons.mp lookedAt
    rw [Element.blocks, Node.outline, Element.outline]
    by_cases heading : Element.blockKind ⟨tag, attributes, children⟩ = .heading
    · simp [heading, Element.headingLink?, Element.outlineEntry, OutlineEntry.link]
    rw [List.filterMap_cons_none (Element.headingLink?_of_ne heading), if_neg heading]
    by_cases known : Element.blockKind ⟨tag, attributes, children⟩ = .unrecognized
    · rw [if_pos known]
      exact filterMap_blocksOf_eq (List.forall_mem_cons.mpr ⟨known, unrecognized⟩) children inside
    · -- a heading below would have to be looked at, but this element is around it
      have outside : ∀ outer ∈ around, outer.blockKind ≠ .heading := by
        intro outer h
        rw [unrecognized outer h]
        decide
      have nothing : outlineOf children = [] := by
        by_contra listed
        obtain ⟨place, member, outermost, within⟩ :=
          exists_place_of_outlineOf (List.forall_mem_cons.mpr ⟨heading, outside⟩) listed
        exact known (inside place member outermost _ (within List.mem_cons_self))
      rw [if_neg known, nothing]
      rfl

/-- Where every outermost heading is looked at, the outline lists no other heading. -/
theorem filterMap_blocksOf_eq {around : List Element}
    (unrecognized : ∀ outer ∈ around, outer.blockKind = .unrecognized) :
    ∀ nodes : List Node, LookedAt (placesOf around nodes) →
      (blocksOf nodes).filterMap Element.headingLink? = (outlineOf nodes).map OutlineEntry.link
  | [], _ => rfl
  | node :: nodes, lookedAt => by
    rw [placesOf] at lookedAt
    obtain ⟨own, others⟩ := List.forall_mem_append.mp lookedAt
    rw [blocksOf, outlineOf, List.filterMap_append, List.map_append,
      filterMap_blocksOf_eq unrecognized nodes others]
    cases node with
    | text s => rfl
    | element e => rw [Node.blocks, Element.filterMap_blocks_eq unrecognized e own]

end

/-! ## Whole pages -/

theorem headingsOf_pageMarkup [UrlReader] (options : Options) {root : Element}
    (noTable : ∀ e ∈ root.descendants, e.dataType? ≠ some "NodeTable") :
    headingsOf (root.pageMarkup options) =
      (blocksOf root.children).filterMap Element.headingLink? := by
  rw [root.pageMarkup_eq, headingsOf_printNodes fun node h =>
    (isBlock_of_mem_render options noTable node h).isPagePart.wellFormed]
  exact pageHeadings_renderBlocks options root.children (blockKind_ne_table noTable)

/-- The headings of a page without tables are listed in the outline, in this order, with their
    levels and identifiers.  They are all that it lists if the only elements around an outermost
    heading are of no known kind. -/
theorem sublist_headingsOf_pageMarkup [UrlReader] (options : Options) (root : Element)
    (noTable : ∀ e ∈ root.descendants, e.dataType? ≠ some "NodeTable") :
    (headingsOf (root.pageMarkup options)).Sublist (root.outline.map OutlineEntry.link) ∧
    ((∀ place ∈ root.places, place.IsOutermostHeading →
        ∀ e ∈ place.around, e.blockKind = .unrecognized) →
      headingsOf (root.pageMarkup options) = root.outline.map OutlineEntry.link) := by
  rw [headingsOf_pageMarkup options noTable]
  obtain ⟨tag, attributes, children⟩ := root
  rw [Element.outline]
  refine ⟨sublist_outlineOf children, fun lookedAt => ?_⟩
  exact filterMap_blocksOf_eq (fun _ h => (List.not_mem_nil h).elim) children lookedAt

def nestedHeadings : Element :=
  ⟨rootTag, [],
    [.element ⟨"div", [],
      [.element ⟨"div", [("data-type", "NodeHeading"), ("data-subtype", "h1"), ("id", "a\"<b")],
        [.text "outer", .element ⟨"div", [("data-type", "NodeHeading")], [.text "inner"]⟩]⟩]⟩,
      .element ⟨"div", [("data-type", "NodeParagraph")], [.text "text"]⟩]⟩

theorem sublist_headingsOf_pageMarkup_nestedHeadings :
    (∀ e ∈ nestedHeadings.descendants, e.dataType? ≠ some "NodeTable") ∧
    (∀ place ∈ nestedHeadings.places, place.IsOutermostHeading →
      ∀ e ∈ place.around, e.blockKind = .unrecognized) ∧
    headingsOf (nestedHeadings.pageMarkup {}) = [(1, some "a\"<b")] ∧
    nestedHeadings.outline.map OutlineEntry.link = [(1, some "a\"<b")] := by
  have noTable : ∀ e ∈ nestedHeadings.descendants, e.dataType? ≠ some "NodeTable" := by decide
  have lookedAt : ∀ place ∈ nestedHeadings.places, place.IsOutermostHeading →
      ∀ e ∈ place.around, e.blockKind = .unrecognized := by decide
  have listed : nestedHeadings.outline.map OutlineEntry.link = [(1, some "a\"<b")] := by decide
  have shown := (sublist_headingsOf_pageMarkup {} nestedHeadings noTable).2 lookedAt
  exact ⟨noTable, lookedAt, shown.trans listed, listed⟩

end NoteMarkup
