import NoteMarkup.Proofs.Page.Merged
import NoteMarkup.Proofs.Page.Shown
import NoteMarkup.Proofs.Text.Escaped
import NoteMarkup.Proofs.Tree.Written

/-!
# Stored source on the page

Formulas and diagrams keep their source in an attribute.  It is escaped there once or twice, and the
page shows it escaped once, wherever the element is shown (`transform_storedSource`).
-/

namespace NoteMarkup

/-- The attribute for stored source is written with this raw text in double quotes, and it is the
    first one of its name. -/
def TagSpelling.Stores (tag : TagSpelling) (raw : String) : Prop :=
  ∃ front attr behind, tag.attributes = front ++ attr :: behind ∧
    (∀ other ∈ front, nameOf other.name ≠ "data-content") ∧
    attr.written = ("data-content=\"" ++ raw ++ "\"").toList

theorem TagSpelling.Stores.lookup_kept {tag : TagSpelling} {raw : String} (stores : tag.Stores raw)
    (inside : '"' ∉ raw.toList) : tag.kept.lookup "data-content" = some (Text.unescape raw) := by
  obtain ⟨front, attr, behind, shape, first, written⟩ := stores
  have pair : attr.pair = ("data-content", Text.unescape raw) := by
    have same : attr.written = (AttributeSpelling.quoted "data-content" raw.toList (by decide)
        (List.all_eq_true.mp rfl) inside).written := by
      rw [written]
      simp [AttributeSpelling.quoted, AttributeSpelling.written, ValueSpelling.chars, Blanks.none,
        Blanks.of]
    rw [AttributeSpelling.pair_eq_of_written_eq same, AttributeSpelling.pair]
    simp only [AttributeSpelling.quoted, ValueSpelling.value, String.ofList_toList]
    rfl
  have none : (front.map AttributeSpelling.pair).lookup "data-content" = none := by
    rw [List.lookup_eq_none_iff]
    intro other member
    obtain ⟨spelling, inFront, rfl⟩ := List.mem_map.mp member
    exact bne_iff_ne.mpr (first spelling inFront).symm
  rw [TagSpelling.kept, lookup_firstOfEachName, shape, List.map_append, List.lookup_append, none,
    List.map_cons, pair]
  rfl

/-- The element of the tag stores the raw text with its entities read twice: once as an attribute,
    and once as source. -/
theorem TagSpelling.Stores.storedSource {tag : TagSpelling} {raw : String} (stores : tag.Stores raw)
    (inside : '"' ∉ raw.toList) {e : Element} (attributes : e.attributes = tag.kept) :
    e.storedSource = Text.unescape (Text.unescape raw) := by
  rw [Element.storedSource, Element.attrD, Element.attr?, attributes, stores.lookup_kept inside,
    Option.getD_some]

/-- A tag fixes the attributes of its element, however it is written. -/
theorem TagSpelling.attributes_eq {tag : TagSpelling} {e : Element} {selfClosing : Bool}
    (spells : Spells tag.chars (.opening e.tag e.attributes selfClosing)) :
    e.attributes = tag.kept := by
  have notText {token : Token} (other : token.isText = false) :
      token.isText = true → EndsText [] := fun text => Bool.noConfusion (other.symm.trans text)
  have own := readToken_of_spells tag.spells (notText rfl)
  rw [readToken_of_spells spells (notText rfl)] at own
  exact (Token.opening.inj (Prod.mk.inj (Except.ok.inj own)).1).2.1

/-- A text in which no entity stands comes back whether it was escaped once or twice. -/
theorem unescape_unescape_of_escaped {x raw : String}
    (plain : ∀ entity ∈ Text.entities, ¬ entity.toList <:+: x.toList)
    (escaped : raw = Text.escape x ∨ raw = Text.escape (Text.escape x)) :
    Text.unescape (Text.unescape raw) = x := by
  obtain rfl | rfl := escaped
  · rw [Text.unescape_escape, Text.unescape, Text.unescapeChars_eq_self_iff.mpr plain,
      String.ofList_toList]
  · rw [Text.unescape_escape, Text.unescape_escape]

/-! ## Pages -/

theorem Element.writeSource_eq_append (subtype? : Option String) (e : Element) :
    e.writeSource subtype? =
      ("<pre class=\"render-node\"" ++ attributeMarkup "data-subtype" subtype? ++ "><code>") ++
        Text.escape e.storedSource ++ "</code></pre>" := by
  unfold Element.writeSource
  rfl

section

variable [UrlReader] (options : Options)

theorem Element.writeBlock_of_mathBlock {e : Element} (kind : e.blockKind = .mathBlock) :
    e.writeBlock options = "<pre class=\"render-node\" data-subtype=\"math\"><code>" ++
      Text.escape e.storedSource ++ "</code></pre>" := by
  have front : "<pre class=\"render-node\"" ++ attributeMarkup "data-subtype" (some "math") ++
      "><code>" = "<pre class=\"render-node\" data-subtype=\"math\"><code>" := by decide
  rw [← front, ← e.writeSource_eq_append]
  obtain ⟨tag, attributes, children⟩ := e
  rw [Element.writeBlock]
  simp only [kind]

theorem Element.writeBlock_of_drawn {e : Element} (kind : e.blockKind = .codeBlock)
    (drawn : e.hasClass "render-node" = true) :
    e.writeBlock options =
      ("<pre class=\"render-node\"" ++
        attributeMarkup "data-subtype" (e.attrNonEmpty? "data-subtype") ++ "><code>") ++
      Text.escape e.storedSource ++ "</code></pre>" := by
  rw [← e.writeSource_eq_append]
  obtain ⟨tag, attributes, children⟩ := e
  rw [Element.writeBlock]
  simp only [kind]
  rw [Element.writeCodeBlock, if_pos drawn]

theorem Element.writeInline_of_math {e : Element} (kind : e.inlineKind = .math) :
    e.writeInline options =
      "<span class=\"math-inline\">" ++ Text.escape e.storedSource ++ "</span>" := by
  obtain ⟨tag, attributes, children⟩ := e
  rw [Element.writeInline]
  simp only [kind]

variable {options}

/-- Where an element that is written as a tag is shown, that tag stands on the page. -/
theorem ShownAt.write_eq_of_tag {own role : Role} {e : Element} {nodes : List Node}
    {front behind opening content closing : String}
    (shown : ShownAt options own e role nodes front behind)
    (writes : own.writeNode options (.element e) = opening ++ content ++ closing)
    (tag : '<' ∈ opening.toList) :
    role.write options nodes = front ++ (opening ++ content ++ closing) ++ behind := by
  rw [shown.write_eq, writes]
  rw [writes, String.toList_append, String.toList_append]
  exact List.mem_append_left _ (List.mem_append_left _ tag)

end

/-- Source that is stored as a raw text without double quotes is shown with its entities read twice
    and escaped once, in a formula block, in a block that is drawn and in a formula inside other
    content, wherever these are shown.  So a text in which no entity stands is shown escaped once,
    whether it is stored escaped once or twice. -/
theorem transform_storedSource [UrlReader] (options : Options) {note raw : String} {nodes : List Node}
    {openings : List (List Char × Element)} {tag : TagSpelling} {e : Element}
    (written : Written nodes note.toList openings)
    (shallow : ∀ place ∈ tagPlacesOf 0 0 nodes,
      isVoidTag place.tag = false → place.ancestors < 512)
    (opening : (tag.chars, e) ∈ openings) (stores : tag.Stores raw) (inside : '"' ∉ raw.toList) :
    (∀ front behind, e.blockKind = .mathBlock →
      ShownAt options .block e .block nodes front behind →
      transform options note = front ++
        ("<pre class=\"render-node\" data-subtype=\"math\"><code>" ++
          Text.escape (Text.unescape (Text.unescape raw)) ++ "</code></pre>") ++ behind) ∧
    (∀ front behind, e.blockKind = .codeBlock → e.hasClass "render-node" = true →
      ShownAt options .block e .block nodes front behind →
      transform options note = front ++
        ("<pre class=\"render-node\"" ++
          attributeMarkup "data-subtype" (e.attrNonEmpty? "data-subtype") ++ "><code>" ++
          Text.escape (Text.unescape (Text.unescape raw)) ++ "</code></pre>") ++ behind) ∧
    (∀ front behind, e.inlineKind = .math →
      ShownAt options .inline e .block nodes front behind →
      transform options note = front ++
        ("<span class=\"math-inline\">" ++ Text.escape (Text.unescape (Text.unescape raw)) ++
          "</span>") ++ behind) ∧
    (∀ x, (∀ entity ∈ Text.entities, ¬ entity.toList <:+: x.toList) →
      raw = Text.escape x ∨ raw = Text.escape (Text.escape x) →
      Text.escape (Text.unescape (Text.unescape raw)) = Text.escape x) := by
  obtain ⟨found, merged, reads⟩ := written.exists_parseStrict shallow
  have page : transform options note = Role.block.write options nodes :=
    transform_of_mergedOf options reads merged
  obtain ⟨selfClosing, spells⟩ := written.exists_spells _ opening
  have stored := stores.storedSource inside (TagSpelling.attributes_eq spells)
  refine ⟨fun front behind kind shown => ?_, fun front behind kind drawn shown => ?_,
    fun front behind kind shown => ?_, fun x plain escaped => ?_⟩
  · rw [page, ← stored]
    exact shown.write_eq_of_tag (e.writeBlock_of_mathBlock options kind) (by decide)
  · rw [page, ← stored]
    refine shown.write_eq_of_tag (e.writeBlock_of_drawn options kind drawn) ?_
    rw [String.toList_append]
    exact List.mem_append_right _ (by decide)
  · rw [page, ← stored]
    exact shown.write_eq_of_tag (e.writeInline_of_math options kind) (by decide)
  · rw [unescape_unescape_of_escaped plain escaped]

def formula : Element :=
  ⟨"span", [("data-type", "inline-math"), ("data-content", "a &lt; b")], []⟩

def formulaParagraph : Element :=
  ⟨"div", [("data-type", "NodeParagraph")], [.text "so ", .element formula]⟩

def formulaTag : TagSpelling where
  letter := 's'
  isAlpha := rfl
  name := "pan".toList
  named := List.all_eq_true.mp rfl
  attributes :=
    [.quoted "data-type" "inline-math".toList (by decide) (List.all_eq_true.mp rfl) (by decide),
      .quoted "data-content" "a &amp;lt; b".toList (by decide) (List.all_eq_true.mp rfl) (by decide)]
  blanks := .none
  selfClosing := false
  apart := by decide

def formulaNote : String :=
  "<div data-type=\"NodeParagraph\">so " ++
    "<span data-type=\"inline-math\" data-content=\"a &amp;lt; b\"></span></div>"

theorem transform_storedSource_formulaNote :
    transform {} formulaNote = "<p>so <span class=\"math-inline\">a &lt; b</span></p>" := by
  have span : Spells formulaTag.chars (.opening "span" formula.attributes false) := by
    have spells := formulaTag.spells
    rwa [show formulaTag.tag = "span" by decide, show formulaTag.kept = formula.attributes by decide]
      at spells
  have named : formulaParagraph.WellNamed := ⟨by decide, by decide, by decide⟩
  obtain ⟨cs, openings, written, opening, same⟩ : ∃ cs openings,
      Written [.element formulaParagraph] cs openings ∧ (formulaTag.chars, formula) ∈ openings ∧
        cs = formulaNote.toList := by
    have inner : Written formulaParagraph.children _ _ :=
      .escaped (by decide) (.element span rfl .nil (spells_closingTag (by decide)) .nil)
    exact ⟨_, _, .element (spells_openingTag named) rfl inner (spells_closingTag named.tag) .nil,
      List.mem_cons_of_mem _ List.mem_cons_self, by decide⟩
  have stores : formulaTag.Stores "a &amp;lt; b" := ⟨[_], _, [], rfl, by decide, by decide⟩
  have framed : Role.block.frame? formulaParagraph =
      some (.tagged "p" .inline formulaParagraph.children) := rfl
  have shown : ShownAt {} .inline formula .block [.element formulaParagraph] _ _ :=
    .inside framed (.here [.text "so "] []) [] []
  obtain ⟨-, -, math, -⟩ := transform_storedSource {} (same ▸ written) (by decide) opening stores
    (by decide)
  rw [math _ _ (by decide) shown]
  decide

end NoteMarkup
