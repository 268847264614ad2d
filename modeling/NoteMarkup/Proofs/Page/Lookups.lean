import NoteMarkup.Page.Markup
import NoteMarkup.Proofs.Tree.Edited

/-!
# What blocks and images are made from

The content of a block, the source of an image and the text of a code block are looked up below
an element.  Each search finds the first match, and what is put in or taken out elsewhere does not
change what is written from it (`find?_isFirst_stable`).
-/

namespace NoteMarkup

inductive Lookup where
  | region
  | image
  | language
  | code

def Lookup.accepts : Lookup → Element → Bool
  | region => Element.isEditable
  | image => (·.tag == "img")
  | language => (·.hasClass "protyle-action__language")
  | code => (·.hasClass "hljs")

theorem Lookup.ignoresChildren (lookup : Lookup) : IgnoresChildren lookup.accepts := by
  intro tag attributes children others
  cases lookup <;> rfl

section

variable {e changed : Element}

theorem Element.writeSource_eq_of_attributes_eq (subtype? : Option String)
    (attributes : changed.attributes = e.attributes) :
    changed.writeSource subtype? = e.writeSource subtype? := by
  have stored : changed.storedSource = e.storedSource := by
    simp only [Element.storedSource, Element.attrD, Element.attr?, attributes]
  unfold Element.writeSource
  rw [stored]

/-- Nothing but the label and the code is looked up below a code block. -/
theorem Element.writeCodeBlock_eq_of_find?_eq (attributes : changed.attributes = e.attributes)
    (language : changed.find? Lookup.language.accepts = e.find? Lookup.language.accepts)
    (code : changed.find? Lookup.code.accepts = e.find? Lookup.code.accepts) :
    changed.writeCodeBlock = e.writeCodeBlock := by
  have label : changed.codeLanguage = e.codeLanguage := by
    rw [Lookup.accepts] at language
    rw [Element.codeLanguage, Element.codeLanguage, language]
  have text : changed.codeText = e.codeText := by
    rw [Lookup.accepts] at code
    rw [Element.codeText, Element.codeText, code]
  have drawn : changed.hasClass "render-node" = e.hasClass "render-node" := by
    simp only [Element.hasClass, Element.classTokens, Element.attrD, Element.attr?, attributes]
  have subtype : changed.attrNonEmpty? "data-subtype" = e.attrNonEmpty? "data-subtype" := by
    simp only [Element.attrNonEmpty?, Element.attr?, attributes]
  unfold Element.writeCodeBlock
  rw [drawn, subtype, Element.writeSource_eq_of_attributes_eq _ attributes, label, text]

section

variable [UrlReader] (options : Options)

theorem Element.writeInline_of_image (kind : e.inlineKind = .image) :
    e.writeInline options = (e.firstImage?.map (inlineImageMarkup options)).getD "" := by
  obtain ⟨tag, attributes, children⟩ := e
  rw [Element.writeInline]
  simp only [kind]
  cases Element.firstImage? ⟨tag, attributes, children⟩ <;> rfl

theorem Element.writeBlock_of_image (kind : e.blockKind = .image) :
    e.writeBlock options = (e.firstImage?.map (blockImageMarkup options)).getD "" := by
  obtain ⟨tag, attributes, children⟩ := e
  rw [Element.writeBlock]
  simp only [kind]
  cases Element.firstImage? ⟨tag, attributes, children⟩ <;> rfl

theorem Element.writeBlock_of_codeBlock (kind : e.blockKind = .codeBlock) :
    e.writeBlock options = e.writeCodeBlock := by
  obtain ⟨tag, attributes, children⟩ := e
  rw [Element.writeBlock]
  simp only [kind]

end

end

/-! ## Changes outside of what is found -/

section

variable {p : Element → Bool} {e changed : Element}

theorem EditedBelow.attributes (edited : EditedBelow p e changed) :
    changed.attributes = e.attributes := by
  cases edited
  rfl

theorem EditedBelow.blockKind (edited : EditedBelow p e changed) :
    changed.blockKind = e.blockKind := by
  cases edited
  rfl

theorem EditedBelow.inlineKind (edited : EditedBelow p e changed) :
    changed.inlineKind = e.inlineKind := by
  cases edited
  rfl

section

variable [UrlReader] {options : Options}

theorem EditedBelow.writeContent (edited : EditedBelow Lookup.region.accepts e changed)
    (region : e.editableRegion? ≠ none) :
    changed.writeContent options = e.writeContent options := by
  have same : changed.editableRegion? = e.editableRegion? :=
    edited.find?_eq Lookup.region.ignoresChildren
  obtain ⟨found, isFound⟩ := Option.ne_none_iff_exists'.mp region
  rw [Element.writeContent, Element.writeContent, Element.editableContent, Element.editableContent,
    same, isFound]
  rfl

theorem EditedBelow.writeBlock_of_image (edited : EditedBelow Lookup.image.accepts e changed)
    (kind : e.blockKind = .image) : changed.writeBlock options = e.writeBlock options := by
  have same : changed.firstImage? = e.firstImage? := edited.find?_eq Lookup.image.ignoresChildren
  rw [Element.writeBlock_of_image options kind,
    Element.writeBlock_of_image options (edited.blockKind.trans kind), same]

theorem EditedBelow.writeInline_of_image (edited : EditedBelow Lookup.image.accepts e changed)
    (kind : e.inlineKind = .image) : changed.writeInline options = e.writeInline options := by
  have same : changed.firstImage? = e.firstImage? := edited.find?_eq Lookup.image.ignoresChildren
  rw [Element.writeInline_of_image options kind,
    Element.writeInline_of_image options (edited.inlineKind.trans kind), same]

theorem EditedBelow.writeBlock_of_codeBlock
    (language : EditedBelow Lookup.language.accepts e changed)
    (code : EditedBelow Lookup.code.accepts e changed) (kind : e.blockKind = .codeBlock) :
    changed.writeBlock options = e.writeBlock options := by
  rw [Element.writeBlock_of_codeBlock options kind,
    Element.writeBlock_of_codeBlock options (code.blockKind.trans kind)]
  exact Element.writeCodeBlock_eq_of_find?_eq code.attributes
    (language.find?_eq Lookup.language.ignoresChildren)
    (code.find?_eq Lookup.code.ignoresChildren)

end

end

/-- A search finds the first match in document order, below the element itself.  Texts and
    elements without a match that are put in or taken out elsewhere change neither what is found
    nor what is written from it. -/
theorem find?_isFirst_stable [UrlReader] :
    (∀ (p : Element → Bool) (e : Element) (found? : Option Element),
      e.find? p = found? ↔ IsFirst p e.descendants found?) ∧
    ∀ e changed : Element,
      (∀ lookup, EditedBelow (Lookup.accepts lookup) e changed →
        changed.find? lookup.accepts = e.find? lookup.accepts) ∧
      ∀ options,
        (EditedBelow Lookup.region.accepts e changed → e.editableRegion? ≠ none →
          changed.writeContent options = e.writeContent options) ∧
        (EditedBelow Lookup.image.accepts e changed → e.blockKind = .image →
          changed.writeBlock options = e.writeBlock options) ∧
        (EditedBelow Lookup.image.accepts e changed → e.inlineKind = .image →
          changed.writeInline options = e.writeInline options) ∧
        (EditedBelow Lookup.language.accepts e changed → EditedBelow Lookup.code.accepts e changed →
          e.blockKind = .codeBlock → changed.writeBlock options = e.writeBlock options) := by
  refine ⟨fun p e found? => Element.find?_eq_iff_isFirst, fun e changed => ⟨?_, fun options => ?_⟩⟩
  · intro lookup edited
    exact edited.find?_eq lookup.ignoresChildren
  · exact ⟨EditedBelow.writeContent, EditedBelow.writeBlock_of_image,
      EditedBelow.writeInline_of_image, EditedBelow.writeBlock_of_codeBlock⟩

/-- A paragraph loses the mark in front of its region, and texts come into an image block, an inline
    image and a code block. -/
theorem find?_isFirst_stable_marks :
    (let region : Node := .element ⟨"div", [("contenteditable", "true")], [.text "kept"]⟩
      let mark : Node := .element ⟨"span", [], [.text "mark"]⟩
      let own := [("data-type", "NodeParagraph")]
      Element.find? Lookup.region.accepts ⟨"div", own, [region]⟩ =
          Element.find? Lookup.region.accepts ⟨"div", own, [mark, region]⟩ ∧
        Element.writeContent {} ⟨"div", own, [region]⟩ =
          Element.writeContent {} ⟨"div", own, [mark, region]⟩) ∧
    (let image : Node := .element ⟨"img", [("src", "a.png")], []⟩
      let own := [("data-type", "NodeImage")]
      Element.writeBlock {} ⟨"div", own, [.element ⟨"div", [], [.text "mark", image]⟩]⟩ =
        Element.writeBlock {} ⟨"div", own, [.element ⟨"div", [], [image]⟩]⟩) ∧
    (let image : Node := .element ⟨"img", [("src", "a.png")], []⟩
      let own := [("data-type", "img")]
      Element.writeInline {} ⟨"span", own, [image, .text "mark"]⟩ =
        Element.writeInline {} ⟨"span", own, [image]⟩) ∧
    (let label : Node := .element ⟨"span", [("class", "protyle-action__language")], [.text "rust"]⟩
      let code : Node := .element ⟨"div", [("class", "hljs")], [.text "let x;"]⟩
      let own := [("data-type", "NodeCodeBlock")]
      Element.writeBlock {} ⟨"div", own, [label, .text "mark", code]⟩ =
        Element.writeBlock {} ⟨"div", own, [label, code]⟩) := by
  have text {p : Element → Bool} (s : String) : ∀ e ∈ Node.elements (.text s), p e = false := nofun
  refine ⟨?_, ?_, ?_, ?_⟩
  · have mark : ∀ e ∈ Node.elements (.element ⟨"span", [], [.text "mark"]⟩),
        Lookup.region.accepts e = false := by
      simp [Node.elements, Element.descendants, descendantsOf, Lookup.accepts, Element.isEditable]
    exact ⟨(find?_isFirst_stable.2 _ _).1 .region (.below (.takenOut mark (.kept .nil))),
      ((find?_isFirst_stable.2 _ _).2 {}).1 (.below (.takenOut mark (.kept .nil))) (by decide)⟩
  · exact ((find?_isFirst_stable.2 _ _).2 {}).2.1
      (.below (.inside (.inr rfl) (.putIn (text "mark") (.kept .nil)) .nil)) rfl
  · exact ((find?_isFirst_stable.2 _ _).2 {}).2.2.1
      (.below (.kept (.putIn (text "mark") .nil))) rfl
  · exact ((find?_isFirst_stable.2 _ _).2 {}).2.2.2
      (.below (.kept (.putIn (text "mark") (.kept .nil))))
      (.below (.kept (.putIn (text "mark") (.kept .nil)))) rfl

end NoteMarkup
