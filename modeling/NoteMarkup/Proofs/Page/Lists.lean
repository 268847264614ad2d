import NoteMarkup.Proofs.Page.Writer
import NoteMarkup.Proofs.Tree.Descendants
import NoteMarkup.Proofs.Tree.Place

/-!
# Lists on a page

A list block becomes one list on the page, with the same lists and items in it at any depth and
with the content of their paragraphs.

- `Element.listPlaces` are the elements that belong to a list;
- `listEntriesOf` lists what a page has in its lists, with the list markup around it;
- `exists_page_of_list` is the statement about what is written.
-/

namespace NoteMarkup

/-! ## Elements that belong to a list -/

/-- A list shows its items, an item its paragraphs and its lists, and nothing else that stands in
    them. -/
def Element.Shows (outer inner : Element) : Prop :=
  outer.blockKind = .list ∧ inner.blockKind = .listItem ∨
    outer.blockKind = .listItem ∧ (inner.blockKind = .paragraph ∨ inner.blockKind = .list)

instance (outer inner : Element) : Decidable (outer.Shows inner) :=
  inferInstanceAs (Decidable (_ ∧ _ ∨ _ ∧ (_ ∨ _)))

/-- Each of the elements, from the outermost at the end on, shows the next one. -/
def AreShown (chain : List Element) : Prop :=
  chain.IsChain fun inner outer => outer.Shows inner

def ElementPlace.IsReached (place : ElementPlace) : Prop :=
  AreShown (place.element :: place.around)

instance (place : ElementPlace) : Decidable place.IsReached :=
  inferInstanceAs (Decidable (List.IsChain _ _))

/-- The elements that belong to a list, itself first, with those around them up to the list. -/
def Element.listPlaces (list : Element) : List ElementPlace :=
  ((Node.element list).places []).filter fun place => place.IsReached

/-! ## What a page has in its lists -/

def listTags : List String := ["ol", "ul", "li"]

/-- A list or an item on a page, or a node that stands directly in one.  The tags of the lists and
    items around it, the innermost first, say in which: the last one in front of it that stands in
    one fewer. -/
inductive ListEntry where
  | markup (around : List String) (tag : String)
  | content (around : List String) (node : Node)

mutual

def Element.listEntries (around : List String) : Element → List ListEntry
  | ⟨tag, attributes, children⟩ =>
    if tag ∈ listTags then
      .markup around tag :: listEntriesOf (tag :: around) children
    else
      [.content around (.element ⟨tag, attributes, children⟩)]

def listEntriesOf (around : List String) : List Node → List ListEntry
  | [] => []
  | node :: nodes => node.listEntries around ++ listEntriesOf around nodes

def Node.listEntries (around : List String) : Node → List ListEntry
  | .element e => e.listEntries around
  | .text s => [.content around (.text s)]

end

def Element.listMarkupTag (e : Element) : String :=
  if e.blockKind = .list then
    if e.attr? "data-subtype" = some "o" then "ol" else "ul"
  else
    "li"

/-- What an element that belongs to a list is on a page: the content of a paragraph, or markup. -/
def ElementPlace.listEntries [UrlReader] (options : Options) (place : ElementPlace) : List ListEntry :=
  let around := place.around.map Element.listMarkupTag
  if place.element.blockKind = .paragraph then
    (place.element.inlineContent options).map (ListEntry.content around)
  else
    [.markup around place.element.listMarkupTag]

theorem listEntriesOf_append (around : List String) (nodes more : List Node) :
    listEntriesOf around (nodes ++ more) = listEntriesOf around nodes ++ listEntriesOf around more := by
  induction nodes with
  | nil => rfl
  | cons node nodes ih =>
    rw [List.cons_append, listEntriesOf, listEntriesOf, ih, List.append_assoc]

theorem listEntriesOf_tagged {tag : String} (known : tag ∈ listTags) (around : List String)
    (children : List Node) :
    listEntriesOf around [tagged tag [] children] =
      .markup around tag :: listEntriesOf (tag :: around) children := by
  rw [listEntriesOf, listEntriesOf, tagged, Node.listEntries, Element.listEntries, if_pos known,
    List.append_nil]

theorem tag_not_mem_listTags_of_children {tag : String} {attributes : List (String × String)}
    {children : List Node} (own : tag ∉ listTags)
    (inner : ∀ node ∈ children, ∀ e ∈ node.elements, e.tag ∉ listTags) :
    ∀ e ∈ (Node.element ⟨tag, attributes, children⟩).elements, e.tag ∉ listTags := by
  intro e h
  rw [Node.elements, Element.descendants] at h
  obtain rfl | h := List.mem_cons.mp h
  · exact own
  · obtain ⟨node, member, h⟩ := mem_descendantsOf.mp h
    exact inner node member e h

theorem IsInline.tag_not_mem_listTags {node : Node} (inner : IsInline node) :
    ∀ e ∈ node.elements, e.tag ∉ listTags := by
  induction inner with
  | text => intro e h; cases h
  | formatting known content ih =>
    have plain : ∀ tag ∈ formattingTags, tag ∉ listTags := by decide
    exact tag_not_mem_listTags_of_children (plain _ known) ih
  | anchor href content ih => exact tag_not_mem_listTags_of_children (by decide) ih
  | math source =>
    refine tag_not_mem_listTags_of_children (by decide) fun node h => ?_
    rw [(eq_text_of_mem_ofText h).1]
    intro e h
    cases h
  | image | memo | lineBreak =>
    exact tag_not_mem_listTags_of_children (by decide) fun node h => by cases h

theorem IsInline.listEntries {node : Node} (inner : IsInline node) (around : List String) :
    node.listEntries around = [.content around node] := by
  cases node with
  | text s => rfl
  | element e =>
    have plain : e.tag ∉ listTags := inner.tag_not_mem_listTags e List.mem_cons_self
    obtain ⟨tag, attributes, children⟩ := e
    rw [Node.listEntries, Element.listEntries, if_neg plain]

theorem listEntriesOf_of_isInline (around : List String) {nodes : List Node}
    (inner : ∀ node ∈ nodes, IsInline node) :
    listEntriesOf around nodes = nodes.map (ListEntry.content around) := by
  induction nodes with
  | nil => rfl
  | cons node nodes ih =>
    obtain ⟨own, others⟩ := List.forall_mem_cons.mp inner
    rw [listEntriesOf, own.listEntries, ih others]
    rfl

section

variable [UrlReader] (options : Options)

def reachedEntries (places : List ElementPlace) : List ListEntry :=
  (places.filter fun place => place.IsReached).flatMap (·.listEntries options)

theorem reachedEntries_append (places more : List ElementPlace) :
    reachedEntries options (places ++ more) =
      reachedEntries options places ++ reachedEntries options more := by
  rw [reachedEntries, List.filter_append, List.flatMap_append, reachedEntries, reachedEntries]

theorem reachedEntries_eq_nil {places : List ElementPlace}
    (hidden : ∀ place ∈ places, ¬ place.IsReached) : reachedEntries options places = [] := by
  have none : places.filter (fun place => place.IsReached) = [] := by
    rw [List.filter_eq_nil_iff]
    intro place member
    simpa using hidden place member
  rw [reachedEntries, none, List.flatMap_nil]

variable {e : Element} {around : List Element}

theorem reachedEntries_of_shown (shown : AreShown (e :: around)) :
    reachedEntries options ((Node.element e).places around) =
      ElementPlace.listEntries options ⟨around, e⟩ ++ reachedEntries options (e.placesIn around) := by
  have reached : ElementPlace.IsReached ⟨around, e⟩ := shown
  rw [Node.places, reachedEntries, List.filter_cons_of_pos (by simpa using reached),
    List.flatMap_cons, reachedEntries]

/-- What is not shown itself shows nothing. -/
theorem reachedEntries_of_not_shown (hidden : ¬ AreShown (e :: around)) :
    reachedEntries options ((Node.element e).places around) = [] := by
  apply reachedEntries_eq_nil
  intro place member reached
  rw [Node.places] at member
  obtain rfl | member := List.mem_cons.mp member
  · exact hidden reached
  · have within := e.suffix_of_mem_placesIn place member
    exact hidden (List.IsChain.suffix reached (within.trans (List.suffix_cons _ _)))

/-- Nothing is reached below an element that shows nothing. -/
theorem reachedEntries_placesIn_eq_nil (closed : ∀ inner, ¬ e.Shows inner) :
    reachedEntries options (e.placesIn around) = [] := by
  apply reachedEntries_eq_nil
  intro place member reached
  obtain ⟨front, within⟩ := e.suffix_of_mem_placesIn place member
  rw [ElementPlace.IsReached, ← within, ← List.cons_append] at reached
  obtain ⟨-, -, meets⟩ := List.isChain_append.mp reached
  exact closed _ (meets _ (List.getLast_mem_getLast? (List.cons_ne_nil _ _)) e rfl)

end

/-! ## Lists and items -/

theorem Element.listTag_eq_ite (e : Element) :
    e.listTag = if e.attr? "data-subtype" = some "o" then "ol" else "ul" := by
  rw [Element.listTag]
  by_cases ordered : e.attr? "data-subtype" = some "o"
  · rw [if_pos ordered, if_pos (by simpa using ordered)]
  · rw [if_neg ordered, if_neg (by simpa using ordered)]

theorem Element.listMarkupTag_of_list {e : Element} (kind : e.blockKind = .list) :
    e.listMarkupTag = e.listTag := by
  rw [Element.listMarkupTag, if_pos kind, Element.listTag_eq_ite]

theorem Element.listMarkupTag_of_item {e : Element} (kind : e.blockKind = .listItem) :
    e.listMarkupTag = "li" := by
  rw [Element.listMarkupTag, if_neg (by rw [kind]; decide)]

theorem Element.listTag_mem (e : Element) : e.listTag ∈ listTags := by
  obtain unordered | ordered := e.listTag_eq
  · rw [unordered]
    decide
  · rw [ordered]
    decide

theorem ElementPlace.listEntries_of_ne_paragraph [UrlReader] (options : Options) {e : Element}
    (other : e.blockKind ≠ .paragraph) (around : List Element) :
    ElementPlace.listEntries options ⟨around, e⟩ =
      [.markup (around.map Element.listMarkupTag) e.listMarkupTag] :=
  if_neg other

/-- A list or an item that is shown, with what stands in it. -/
theorem listEntriesOf_of_shown [UrlReader] (options : Options) {e : Element} {around : List Element}
    {tag : String} {content : List Node} (shown : AreShown (e :: around))
    (other : e.blockKind ≠ .paragraph) (named : e.listMarkupTag = tag) (known : tag ∈ listTags)
    (inner : listEntriesOf ((e :: around).map Element.listMarkupTag) content =
      reachedEntries options (e.placesIn around)) :
    listEntriesOf (around.map Element.listMarkupTag) [tagged tag [] content] =
      reachedEntries options ((Node.element e).places around) := by
  rw [List.map_cons, named] at inner
  rw [listEntriesOf_tagged known, inner, reachedEntries_of_shown options shown,
    ElementPlace.listEntries_of_ne_paragraph options other, named, List.singleton_append]

theorem AreShown.cons {e outer : Element} {around : List Element} (shows : outer.Shows e)
    (shown : AreShown (outer :: around)) : AreShown (e :: outer :: around) :=
  List.isChain_cons_cons.mpr ⟨shows, shown⟩

theorem AreShown.head {e outer : Element} {around : List Element}
    (shown : AreShown (e :: outer :: around)) : outer.Shows e :=
  (List.isChain_cons_cons.mp shown).1

-- The six statements follow the six functions that make a list.  What they hand down is that
-- everything around the node in question is shown, so that its own kind decides whether it is.
mutual

theorem Element.listEntriesOf_renderList [UrlReader] (options : Options) :
    ∀ {e : Element} {around : List Element}, e.blockKind = .list → AreShown (e :: around) →
      listEntriesOf (around.map Element.listMarkupTag) [e.renderList options] =
        reachedEntries options ((Node.element e).places around)
  | ⟨tag, attributes, children⟩, around, kind, shown => by
    rw [Element.renderList]
    apply listEntriesOf_of_shown options shown
    · rw [kind]
      decide
    · exact Element.listMarkupTag_of_list kind
    · exact Element.listTag_mem _
    · rw [Element.placesIn]
      exact listEntriesOf_renderItems options children kind shown

theorem listEntriesOf_renderItems [UrlReader] (options : Options) :
    ∀ (nodes : List Node) {list : Element} {around : List Element}, list.blockKind = .list →
      AreShown (list :: around) →
      listEntriesOf ((list :: around).map Element.listMarkupTag) (renderItems options nodes) =
        reachedEntries options (placesOf (list :: around) nodes)
  | [], _, _, _, _ => rfl
  | node :: nodes, list, around, kind, shown => by
    rw [renderItems, placesOf, listEntriesOf_append, reachedEntries_append,
      Node.listEntriesOf_renderItem options kind shown, listEntriesOf_renderItems options nodes kind shown]

theorem Node.listEntriesOf_renderItem [UrlReader] (options : Options) :
    ∀ {node : Node} {list : Element} {around : List Element}, list.blockKind = .list →
      AreShown (list :: around) →
      listEntriesOf ((list :: around).map Element.listMarkupTag) (node.renderItem options) =
        reachedEntries options (node.places (list :: around))
  | .text _, _, _, _, _ => rfl
  | .element e, list, around, kind, shown => by
    rw [Node.renderItem]
    by_cases item : e.blockKind = .listItem
    · rw [if_pos item]
      exact Element.listEntriesOf_renderListItem options item (shown.cons (.inl ⟨kind, item⟩))
    · rw [if_neg item, reachedEntries_of_not_shown]
      · rfl
      · -- a list shows items only
        intro reached
        obtain ⟨-, own⟩ | ⟨other, -⟩ := reached.head
        · exact item own
        · rw [kind] at other
          cases other

theorem Element.listEntriesOf_renderListItem [UrlReader] (options : Options) :
    ∀ {e : Element} {around : List Element}, e.blockKind = .listItem → AreShown (e :: around) →
      listEntriesOf (around.map Element.listMarkupTag) [e.renderListItem options] =
        reachedEntries options ((Node.element e).places around)
  | ⟨tag, attributes, children⟩, around, kind, shown => by
    rw [Element.renderListItem]
    apply listEntriesOf_of_shown options shown
    · rw [kind]
      decide
    · exact Element.listMarkupTag_of_item kind
    · decide
    · rw [Element.placesIn]
      exact listEntriesOf_renderItemContent options children kind shown

theorem listEntriesOf_renderItemContent [UrlReader] (options : Options) :
    ∀ (nodes : List Node) {item : Element} {around : List Element}, item.blockKind = .listItem →
      AreShown (item :: around) →
      listEntriesOf ((item :: around).map Element.listMarkupTag) (renderItemContent options nodes) =
        reachedEntries options (placesOf (item :: around) nodes)
  | [], _, _, _, _ => rfl
  | node :: nodes, item, around, kind, shown => by
    rw [renderItemContent, placesOf, listEntriesOf_append, reachedEntries_append,
      Node.listEntriesOf_renderItemPart options kind shown,
      listEntriesOf_renderItemContent options nodes kind shown]

theorem Node.listEntriesOf_renderItemPart [UrlReader] (options : Options) :
    ∀ {node : Node} {item : Element} {around : List Element}, item.blockKind = .listItem →
      AreShown (item :: around) →
      listEntriesOf ((item :: around).map Element.listMarkupTag) (node.renderItemPart options) =
        reachedEntries options (node.places (item :: around))
  | .text _, _, _, _, _ => rfl
  | .element e, item, around, kind, shown => by
    rw [Node.renderItemPart]
    split
    case h_1 paragraph =>
      have closed : ∀ inner, ¬ e.Shows inner := by
        rintro inner (⟨list, -⟩ | ⟨item, -⟩)
        · rw [paragraph] at list
          cases list
        · rw [paragraph] at item
          cases item
      rw [listEntriesOf_of_isInline _ Element.isInline_of_mem_inlineContent,
        reachedEntries_of_shown options (shown.cons (.inr ⟨kind, .inl paragraph⟩)),
        reachedEntries_placesIn_eq_nil options closed, List.append_nil, ElementPlace.listEntries,
        if_pos paragraph]
    case h_2 list =>
      exact Element.listEntriesOf_renderList options list (shown.cons (.inr ⟨kind, .inr list⟩))
    case h_3 paragraph list =>
      rw [reachedEntries_of_not_shown]
      · rfl
      · -- an item shows paragraphs and lists only
        intro reached
        obtain ⟨other, -⟩ | ⟨-, own | own⟩ := reached.head
        · rw [kind] at other
          cases other
        · exact paragraph own
        · exact list own

end

theorem Element.renderBlock_of_list [UrlReader] (options : Options) :
    ∀ {e : Element}, e.blockKind = .list → e.renderBlock options = [e.renderList options]
  | ⟨_, _, _⟩, kind => by
    rw [Element.renderBlock]
    simp only [kind]

theorem Element.tagged_renderList [UrlReader] (options : Options) (e : Element) :
    ∃ items, e.renderList options =
      tagged (if e.attr? "data-subtype" = some "o" then "ol" else "ul") [] items := by
  rw [← e.listTag_eq_ite]
  cases e with
  | mk _ _ children =>
    rw [Element.renderList]
    exact ⟨renderItems options children, rfl⟩

theorem isInline_of_mem_reachedEntries [UrlReader] {options : Options} {places : List ElementPlace}
    {around : List String} {node : Node}
    (h : ListEntry.content around node ∈ reachedEntries options places) : IsInline node := by
  obtain ⟨place, -, h⟩ := List.mem_flatMap.mp h
  unfold ElementPlace.listEntries at h
  split at h
  · obtain ⟨inner, member, equal⟩ := List.mem_map.mp h
    cases equal
    exact Element.isInline_of_mem_inlineContent node member
  · cases List.mem_singleton.mp h

/-- A list block is written as one list, ordered exactly if its subtype is `o`.  What stands in it
    on the page, at any depth, are the lists and the items that belong to the block, each once, in
    the same order and in the same ones, and directly in each item the content of its paragraphs,
    which has no lists and no items in it. -/
theorem exists_page_of_list [UrlReader] (options : Options) {list : Element}
    (kind : list.blockKind = .list) :
    ∃ page : Node, list.writeBlock options = page.print ∧ IsList page ∧
      (∃ items, page =
        tagged (if list.attr? "data-subtype" = some "o" then "ol" else "ul") [] items) ∧
      listEntriesOf [] [page] = list.listPlaces.flatMap (·.listEntries options) ∧
      ∀ around node, .content around node ∈ listEntriesOf [] [page] →
        IsInline node ∧ ∀ e ∈ node.elements, e.tag ∉ listTags := by
  have entries : listEntriesOf [] [list.renderList options] =
      reachedEntries options ((Node.element list).places []) :=
    Element.listEntriesOf_renderList options kind (List.isChain_singleton list)
  refine ⟨list.renderList options, ?_, list.isList_renderList options,
    list.tagged_renderList options, entries, ?_⟩
  · rw [list.writeBlock_eq, Element.renderBlock_of_list options kind, printNodes_singleton]
  · intro around node h
    rw [entries] at h
    have inner := isInline_of_mem_reachedEntries h
    exact ⟨inner, inner.tag_not_mem_listTags⟩

/-- An ordered list in an item behind a paragraph, with elements that do not belong to the list:
    an item in the paragraph, a heading in the item, a paragraph in the list. -/
def nestedList : Element :=
  ⟨"div", [("data-type", "NodeList"), ("data-subtype", "u")],
    [.element ⟨"div", [("data-type", "NodeParagraph")], [.text "x"]⟩,
      .element ⟨"div", [("data-type", "NodeListItem")],
        [.element ⟨"div", [("data-type", "NodeParagraph")],
          [.element ⟨"div", [("data-type", "NodeListItem")], [.text "a"]⟩]⟩,
          .element ⟨"div", [("data-type", "NodeHeading")], [.text "y"]⟩,
          .element ⟨"div", [("data-type", "NodeList"), ("data-subtype", "o")],
            [.element ⟨"div", [("data-type", "NodeListItem")],
              [.element ⟨"div", [("data-type", "NodeParagraph")], [.text "b"]⟩]⟩]⟩]⟩]⟩

theorem exists_page_of_list_nestedList :
    nestedList.blockKind = .list ∧
    ∃ page : Node, nestedList.writeBlock {} = page.print ∧ IsList page ∧
      listEntriesOf [] [page] =
        [.markup [] "ul", .markup ["ul"] "li", .content ["li", "ul"] (.text "a"),
          .markup ["li", "ul"] "ol", .markup ["ol", "li", "ul"] "li",
          .content ["li", "ol", "li", "ul"] (.text "b")] := by
  have kind : nestedList.blockKind = .list := by decide
  obtain ⟨page, written, isList, -, entries, -⟩ := exists_page_of_list {} kind
  exact ⟨kind, page, written, isList, entries.trans rfl⟩

end NoteMarkup
