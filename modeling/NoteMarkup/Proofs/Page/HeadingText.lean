import NoteMarkup.Proofs.Page.Enclosure
import NoteMarkup.Proofs.Page.Headings

/-!
# Texts of headings

A page shows the content of a heading, and the outline lists its text.  `text_outlineEntry_eq_iff`
says for which headings they are the same.
-/

namespace NoteMarkup

/-- Inline content made of elements that keep their text has the text of the note. -/
theorem textContentOf_renderInlines [UrlReader] (options : Options) {nodes : List Node}
    (keeps : ∀ inner ∈ descendantsOf nodes, inner.KeepsText) :
    textContentOf (renderInlines options nodes) = textContentOf nodes := by
  apply String.ext
  rw [← map_fst_enclosedCharactersOf Element.pageEnclosure? [],
    enclosedCharactersOf_renderInlines options keeps, map_fst_enclosedCharactersOf]

theorem Element.markupText_inlineContent [UrlReader] (options : Options) {e : Element}
    (keeps : ∀ inner ∈ e.descendants, inner.KeepsText) :
    markupText (printNodes (e.inlineContent options)) = textContentOf e.editableContent := by
  have wf : ∀ node ∈ e.inlineContent options, node.WellFormed := fun node h =>
    (Element.isInline_of_mem_inlineContent node h).isPagePart.wellFormed
  rw [markupText_printNodes wf]
  exact textContentOf_renderInlines options fun inner h =>
    keeps inner (e.sublist_editableContent.subset h)

theorem Element.writeBlock_of_heading [UrlReader] (options : Options) :
    ∀ {e : Element}, e.blockKind = .heading → e.writeBlock options =
      openingTag ("h" ++ toString e.headingLevel) (optionalAttribute "id" e.headingId?) ++
        printNodes (e.inlineContent options) ++ closingTag ("h" ++ toString e.headingLevel)
  | ⟨tag, attributes, children⟩, heading => by
    have notVoid := isVoidTag_of_mem_headingTags _ (Element.headingTag_mem ⟨tag, attributes, children⟩)
    rw [Element.writeBlock]
    simp only [heading]
    rw [Element.writeHeading_eq, renderHeading, print_tagged notVoid]

/-- A heading shows its editable region, or all that it holds where it has none.  The outline
    lists the text that is shown, without the blanks around it, if there is a region; without one
    it lists no text, and so exactly the headings that show some have another text there. -/
theorem text_outlineEntry_eq_iff [UrlReader] (options : Options) {e : Element}
    (heading : e.blockKind = .heading)
    (keeps : ∀ inner ∈ e.descendants, inner.KeepsText) :
    ∃ content,
      e.writeBlock options =
        openingTag ("h" ++ toString e.headingLevel) (optionalAttribute "id" e.headingId?) ++
          content ++ closingTag ("h" ++ toString e.headingLevel) ∧
      (e.outlineEntry.text = Text.trim (markupText content) ↔
        e.editableRegion?.isSome = true ∨ Text.trim e.textContent = "") := by
  refine ⟨printNodes (e.inlineContent options), e.writeBlock_of_heading options heading, ?_⟩
  rw [e.markupText_inlineContent options keeps, Element.outlineEntry, Element.headingText,
    Element.editableContent]
  cases e.editableRegion? with
  | some region => simp [Element.textContent_eq]
  | none =>
    simp only [Option.getD_none, Option.isSome_none, Bool.false_eq_true, false_or,
      Element.textContent_eq]
    exact eq_comm

def regionHeading : Element :=
  ⟨"div", [("data-type", "NodeHeading"), ("data-subtype", "h3")],
    [.text "#", .element ⟨"div", [("contenteditable", "true")],
      [.text " a & ", .element ⟨"span", [("data-type", "strong")], [.text "b"]⟩]⟩]⟩

theorem text_outlineEntry_eq_iff_regionHeading :
    regionHeading.blockKind = .heading ∧
    (∀ inner ∈ regionHeading.descendants, inner.KeepsText) ∧
    ∃ content,
      regionHeading.writeBlock {} =
        openingTag ("h" ++ toString regionHeading.headingLevel)
          (optionalAttribute "id" regionHeading.headingId?) ++
          content ++ closingTag ("h" ++ toString regionHeading.headingLevel) ∧
      (regionHeading.outlineEntry.text = Text.trim (markupText content) ↔
        regionHeading.editableRegion?.isSome = true ∨ Text.trim regionHeading.textContent = "") := by
  have heading : regionHeading.blockKind = .heading := by decide
  have keeps : ∀ inner ∈ regionHeading.descendants, inner.KeepsText := by
    have below : ∀ inner ∈ regionHeading.descendants, inner.inlineKind ≠ .image ∧
        inner.inlineKind ≠ .math ∧ inner.tag ≠ "br" := by decide
    intro inner h
    obtain ⟨image, math, lineBreak⟩ := below inner h
    exact ⟨image, math, fun tag => absurd tag lineBreak⟩
  exact ⟨heading, keeps, text_outlineEntry_eq_iff {} heading keeps⟩

def bareHeading : Element :=
  ⟨"div", [("data-type", "NodeHeading"), ("data-subtype", "h1")], [.text "Title"]⟩

/-- A heading without a region shows a text on the page that the outline does not list. -/
theorem text_outlineEntry_bareHeading :
    parseStrict "<div data-type=\"NodeHeading\" data-subtype=\"h1\">Title</div>" =
      .ok ⟨rootTag, [], [.element bareHeading]⟩ ∧
    bareHeading.blockKind = .heading ∧ bareHeading.descendants = [] ∧
    bareHeading.writeBlock {} = "<h1>" ++ "Title" ++ "</h1>" ∧
    Text.trim (markupText "Title") = "Title" ∧ bareHeading.outlineEntry.text = "" := by
  have wf : ∀ node ∈ [Node.element bareHeading], node.WellFormed := by decide
  have printed : printNodes [.element bareHeading] =
      "<div data-type=\"NodeHeading\" data-subtype=\"h1\">Title</div>" := by decide
  have reads := parseStrict_of_find?_eq_none wf (by decide)
  rw [printed] at reads
  have shown : markupText (printNodes [.text "Title"]) = "Title" :=
    markupText_printNodes (by decide)
  refine ⟨reads, by decide, by decide, by decide, ?_, by decide⟩
  rw [show "Title" = printNodes [.text "Title"] by decide, shown]
  decide

end NoteMarkup
