import NoteMarkup.Proofs.Token.Cut
import NoteMarkup.Proofs.Token.TagSpelling
import NoteMarkup.Proofs.Tree.Append

/-!
# Markup in any spelling

The same nodes can be written in many ways: texts with or without entities, every tag in another
spelling, and comments and declarations between the nodes.

- `Written.exists_parseStrict` reads them back, up to how texts are split;
- `parseStrict_spelling` is about a single tag, and says what is read of it.
-/

namespace NoteMarkup

/-! ## Spellings of nodes -/

/-- The characters are markup of the nodes: texts and tags are spelled in any way, and comments and
    declarations stand anywhere between.  The opening tags are listed as they are written, in
    document order, each with its element. -/
inductive Written : List Node → List Char → List (List Char × Element) → Prop where
  | nil : Written [] [] []
  /-- Another text may follow one that is escaped. -/
  | escaped {s : String} {nodes : List Node} {cs : List Char} {openings : List (List Char × Element)}
      (nonempty : s ≠ "") (behind : Written nodes cs openings) :
      Written (.text s :: nodes) ((Text.escape s).toList ++ cs) openings
  | text {own cs : List Char} {s : String} {nodes : List Node}
      {openings : List (List Char × Element)} (spells : Spells own (.text s)) (ends : EndsText cs)
      (behind : Written nodes cs openings) : Written (.text s :: nodes) (own ++ cs) openings
  | skipped {own cs : List Char} {token : Token} {nodes : List Node}
      {openings : List (List Char × Element)} (spells : Spells own token)
      (skipped : token.isSkipped = true) (behind : Written nodes cs openings) :
      Written nodes (own ++ cs) openings
  /-- A tag that closes itself, or a void one, stands for an element without content. -/
  | childless {own cs : List Char} {tag : String} {attributes : List (String × String)}
      {selfClosing : Bool} {nodes : List Node} {openings : List (List Char × Element)}
      (spells : Spells own (.opening tag attributes selfClosing))
      (childless : (selfClosing || isVoidTag tag) = true) (behind : Written nodes cs openings) :
      Written (.element ⟨tag, attributes, []⟩ :: nodes) (own ++ cs)
        ((own, ⟨tag, attributes, []⟩) :: openings)
  | element {own content close cs : List Char} {tag : String} {attributes : List (String × String)}
      {children nodes : List Node} {inner openings : List (List Char × Element)}
      (spells : Spells own (.opening tag attributes false)) (notVoid : isVoidTag tag = false)
      (below : Written children content inner) (closes : Spells close (.closing tag))
      (behind : Written nodes cs openings) :
      Written (.element ⟨tag, attributes, children⟩ :: nodes) (own ++ (content ++ (close ++ cs)))
        ((own, ⟨tag, attributes, children⟩) :: (inner ++ openings))

/-- Each opening tag says the name and the attributes of its element. -/
theorem Written.exists_spells {nodes : List Node} {cs : List Char}
    {openings : List (List Char × Element)} (written : Written nodes cs openings) :
    ∀ opening ∈ openings, ∃ selfClosing,
      Spells opening.1 (.opening opening.2.tag opening.2.attributes selfClosing) := by
  induction written with
  | nil => exact fun _ h => (List.not_mem_nil h).elim
  | escaped nonempty behind ih => exact ih
  | text spells ends behind ih => exact ih
  | skipped spells skipped behind ih => exact ih
  | childless spells childless behind ih => exact List.forall_mem_cons.mpr ⟨⟨_, spells⟩, ih⟩
  | element spells notVoid below closes behind ihBelow ih =>
    exact List.forall_mem_cons.mpr ⟨⟨_, spells⟩, List.forall_mem_append.mpr ⟨ihBelow, ih⟩⟩

theorem spells_of_readToken {own : List Char} {token : Token} (nonempty : own ≠ [])
    (tag : token.isTag = true) (reads : readToken own = .ok (token, [])) : Spells own token := by
  generalize rest : ([] : List Char) = behind at reads
  cases (tokenInFront_iff_readToken nonempty).mpr reads with
  | whole spells =>
    rw [← rest, List.append_nil]
    exact spells
  | unclosed unclosed => cases unclosed <;> cases tag

theorem spells_openingTag {tag : String} {attributes : List (String × String)}
    {children : List Node} (named : Element.WellNamed ⟨tag, attributes, children⟩) :
    Spells (openingTag tag attributes).toList (.opening tag attributes false) := by
  have reads := readToken_openingTag named []
  rw [List.append_nil] at reads
  exact spells_of_readToken (by simp [openingTag]) rfl reads

theorem spells_closingTag {tag : String} (named : isTagName tag = true) :
    Spells (closingTag tag).toList (.closing tag) := by
  have reads := readToken_closingTag named []
  rw [List.append_nil] at reads
  exact spells_of_readToken (by simp [closingTag]) rfl reads

/-! ## Reading back -/

/-- Where a token starts that is no text, a text ends. -/
theorem endsText_of_spells {own : List Char} {token : Token} (spells : Spells own token)
    (other : token.isText = false) (rest : List Char) : EndsText (own ++ rest) := by
  have reads : readToken (own ++ rest) = .ok (token, rest) :=
    readToken_of_spells spells fun text => Bool.noConfusion (other.symm.trans text)
  have kind := isText_of_readToken reads
  rw [other] at kind
  exact .inr (by simpa using kind.symm)

theorem lexemesOf_of_spells {own : List Char} {token : Token} (spells : Spells own token)
    (other : token.isText = false) (rest : List Char) :
    lexemesOf (own ++ rest) = ⟨own ++ rest, token⟩ :: lexemesOf rest :=
  lexemesOf_of_readToken (by simp [spells.ne_nil])
    (readToken_of_spells spells fun text => Bool.noConfusion (other.symm.trans text))

/-- Escaped text in front of a text is a part of it. -/
theorem Spells.escape_append {own : List Char} {s : String} (spells : Spells own (.text s))
    (pending : String) : Spells ((Text.escape pending).toList ++ own) (.text (pending ++ s)) := by
  cases spells with
  | text nonempty plain =>
    have value : valueOf ((Text.escape pending).toList ++ own) = pending ++ valueOf own := by
      apply String.ext
      rw [valueOf, Text.toList_escape, Text.unescapeChars_escapeChars_append, String.toList_ofList,
        String.toList_append, valueOf, String.toList_ofList]
    have inert : ∀ c ∈ (Text.escape pending).toList, c ≠ '<' := fun c member =>
      (Text.ne_of_mem_escapeChars (Text.toList_escape pending ▸ member)).1
    rw [← value]
    refine .text (by simp [nonempty]) ?_
    generalize (Text.escape pending).toList = front at inert
    induction front with
    | nil => exact plain
    | cons c front ih =>
      rw [List.forall_mem_cons] at inert
      intro rest suffix
      obtain rfl | suffix := List.suffix_cons_iff.mp suffix
      · exact startsMarkup_cons_of_ne inert.1 _
      · exact ih inert.2 rest suffix

theorem Spells.text_ne_empty {own : List Char} {s : String} (spells : Spells own (.text s)) :
    s ≠ "" := by
  cases spells with
  | text nonempty plain =>
    intro empty
    have chars := congrArg String.toList empty
    rw [valueOf, String.toList_ofList] at chars
    exact Text.unescapeChars_ne_nil nonempty chars

theorem EndsText.append {cs rest : List Char} (ends : EndsText cs) (restEnds : EndsText rest) :
    EndsText (cs ++ rest) := by
  obtain rfl | starts := ends
  · exact restEnds
  · exact .inr (startsMarkup_append starts rest)

theorem Token.isText_of_isSkipped {token : Token} (skipped : token.isSkipped = true) :
    token.isText = false := by
  cases token with
  | comment | declaration => rfl
  | _ => cases skipped

section

variable {size depth : Nat} {open? : Option OpenTag}

theorem readSiblings_skipped {token : Token} (skipped : token.isSkipped = true) (source : List Char)
    (lexemes : List Lexeme) :
    readSiblings size depth open? (⟨source, token⟩ :: lexemes) =
      readSiblings size depth open? lexemes := by
  cases token with
  | comment => exact readSiblings_comment
  | declaration => exact readSiblings_declaration
  | _ => cases skipped

theorem readSiblings_of_spells_text {own : List Char} {s : String} (spells : Spells own (.text s))
    {rest : List Char} (ends : EndsText rest) :
    readSiblings size depth open? (lexemesOf (own ++ rest)) =
      (readSiblings size depth open? (lexemesOf rest)).prepend [.text s] := by
  rw [lexemesOf_of_readToken (by simp [spells.ne_nil]) (readToken_of_spells spells fun _ => ends),
    readSiblings_text]

/-- A text, or none, in front of where texts end. -/
theorem readSiblings_escape (pending : String) {rest : List Char} (ends : EndsText rest) :
    readSiblings size depth open? (lexemesOf ((Text.escape pending).toList ++ rest)) =
      (readSiblings size depth open? (lexemesOf rest)).prepend (Node.ofText pending) := by
  unfold Node.ofText
  split
  · rename_i none
    rw [String.isEmpty_iff.mp none]
    rfl
  · rename_i nonempty
    rw [String.isEmpty_iff] at nonempty
    rw [lexemesOf_of_readToken (by simp [nonempty]) (readToken_escape nonempty ends),
      readSiblings_text]

end

/-- Markup in any spelling is read back in front of other markup, behind a text that is not yet
    ended, where no element that can have content stands too deep.  Only a comment or a declaration
    keeps two texts apart. -/
theorem Written.reads {size : Nat} {nodes : List Node} {cs : List Char}
    {openings : List (List Char × Element)} (written : Written nodes cs openings) :
    ∀ (depth offset : Nat) (open? : Option OpenTag) (rest : List Char) (pending : String),
      (∀ place ∈ tagPlacesOf depth offset nodes,
        isVoidTag place.tag = false → place.ancestors < maxDepth) →
      EndsText rest →
      ∃ found, mergedOf found = mergedOf (Node.ofText pending ++ nodes) ∧
        readSiblings size depth open? (lexemesOf ((Text.escape pending).toList ++ (cs ++ rest))) =
          (readSiblings size depth open? (lexemesOf rest)).prepend found := by
  induction written with
  | nil =>
    intro depth offset open? rest pending _ ends
    exact ⟨Node.ofText pending, by rw [List.append_nil], readSiblings_escape pending ends⟩
  | @text own cs s nodes openings spells ends behind ih =>
    intro depth offset open? rest pending shallow restEnds
    obtain ⟨found, merged, reads⟩ := ih depth _ open? rest "" shallow restEnds
    refine ⟨Node.ofText (pending ++ s) ++ found, (mergedOf_append_congr merged).trans
      (mergedOf_ofText_append spells.text_ne_empty pending nodes), ?_⟩
    -- the text that is not yet ended is the front of this one
    rw [← List.append_assoc, ← List.append_assoc, List.append_assoc _ cs,
      readSiblings_of_spells_text (spells.escape_append pending) (ends.append restEnds),
      Node.ofText_append spells.text_ne_empty, Found.prepend_append]
    exact congrArg (Found.prepend _) reads
  | @escaped s nodes cs openings nonempty behind ih =>
    intro depth offset open? rest pending shallow ends
    obtain ⟨found, merged, reads⟩ := ih depth _ open? rest (pending ++ s) shallow ends
    refine ⟨found, merged.trans (mergedOf_ofText_append nonempty pending nodes), ?_⟩
    rw [← reads, Text.escape_append, String.toList_append]
    simp only [List.append_assoc]
  | @skipped own cs token nodes openings spells skipped behind ih =>
    intro depth offset open? rest pending shallow ends
    have other := Token.isText_of_isSkipped skipped
    obtain ⟨found, merged, reads⟩ := ih depth offset open? rest "" shallow ends
    refine ⟨Node.ofText pending ++ found, mergedOf_append_congr merged, ?_⟩
    rw [List.append_assoc, readSiblings_escape pending (endsText_of_spells spells other _),
      lexemesOf_of_spells spells other, readSiblings_skipped skipped, Found.prepend_append]
    exact congrArg (Found.prepend _) reads
  | @childless own cs tag attributes selfClosing nodes openings spells childless behind ih =>
    intro depth offset open? rest pending shallow ends
    rw [tagPlacesOf, List.forall_mem_append] at shallow
    obtain ⟨found, merged, reads⟩ := ih depth _ open? rest "" shallow.2 ends
    refine ⟨Node.ofText pending ++ ([.element ⟨tag, attributes, []⟩] ++ found),
      mergedOf_append_congr (mergedOf_element_congr rfl merged), ?_⟩
    rw [List.append_assoc, readSiblings_escape pending (endsText_of_spells spells rfl _),
      lexemesOf_of_spells spells rfl, readSiblings_opening_of_childless childless,
      Found.prepend_append, Found.prepend_append]
    exact congrArg (fun read => Found.prepend _ (Found.prepend _ read)) reads
  | @element own content close cs tag attributes children nodes inner openings spells notVoid below
      closes behind ihBelow ih =>
    intro depth offset open? rest pending shallow ends
    rw [tagPlacesOf, List.forall_mem_append, Node.tagPlaces, Element.tagPlaces, notVoid,
      if_neg Bool.false_ne_true, List.forall_mem_cons] at shallow
    obtain ⟨⟨here, shallowBelow⟩, shallowBehind⟩ := shallow
    obtain ⟨found, merged, reads⟩ := ih depth _ open? rest "" shallowBehind ends
    obtain ⟨foundBelow, mergedBelow, readsBelow⟩ :=
      ihBelow (depth + 1) _ (some ⟨tag, own ++ (content ++ (close ++ (cs ++ rest)))⟩)
        (close ++ (cs ++ rest)) "" shallowBelow (endsText_of_spells closes rfl (cs ++ rest))
    rw [lexemesOf_of_spells closes rfl, readSiblings_closing, Option.map_some, if_pos rfl,
      Found.prepend, List.append_nil] at readsBelow
    have fits : depth < maxDepth := here notVoid
    have readsContent : readSiblings size (depth + 1)
        (some ⟨tag, own ++ (content ++ (close ++ (cs ++ rest)))⟩)
        (lexemesOf (content ++ (close ++ (cs ++ rest)))) =
          ⟨foundBelow, .ok (lexemesOf (cs ++ rest))⟩ := readsBelow
    have readsElement : readSiblings size depth open?
        (lexemesOf (own ++ (content ++ (close ++ (cs ++ rest))))) =
          (readSiblings size depth open? (lexemesOf (cs ++ rest))).prepend
            [.element ⟨tag, attributes, foundBelow⟩] := by
      rw [lexemesOf_of_spells spells rfl, readSiblings_opening_of_ok (by simp [notVoid]) fits
        (by rw [readsContent]), readsContent]
    refine ⟨Node.ofText pending ++ ([.element ⟨tag, attributes, foundBelow⟩] ++ found),
      mergedOf_append_congr (mergedOf_element_congr mergedBelow merged), ?_⟩
    simp only [List.append_assoc]
    rw [readSiblings_escape pending (endsText_of_spells spells rfl _), readsElement,
      Found.prepend_append, Found.prepend_append]
    exact congrArg (fun read => Found.prepend _ (Found.prepend _ read)) reads

/-- A text that is markup of some nodes is read without error as these nodes, up to how texts are
    split, if every element that can have content stands in fewer than 512 others. -/
theorem Written.exists_parseStrict {nodes : List Node} {markup : String}
    {openings : List (List Char × Element)} (written : Written nodes markup.toList openings)
    (shallow : ∀ place ∈ tagPlacesOf 0 0 nodes,
      isVoidTag place.tag = false → place.ancestors < 512) :
    ∃ found, mergedOf found = mergedOf nodes ∧ parseStrict markup = .ok ⟨rootTag, [], found⟩ := by
  obtain ⟨found, merged, reads⟩ := written.reads 0 0 none [] "" shallow (.inl rfl)
  have whole : readSiblings markup.length 0 none (lexemes markup) = ⟨found, .ok []⟩ := by
    have stop : readSiblings markup.length 0 none (lexemesOf []) = ⟨[], .ok []⟩ := by
      rw [lexemesOf, readSiblings_nil]
    rw [stop, List.append_nil, Found.prepend, List.append_nil] at reads
    exact reads
  refine ⟨found, merged, ?_⟩
  rw [parseStrict_eq, parse_eq, whole]
  rfl

/-! ## A single tag -/

def TagSpelling.alone (tag : TagSpelling) (close : List Char) : List Char :=
  if tag.selfClosing || isVoidTag tag.tag then tag.chars
  else tag.chars ++ ('<' :: '/' :: (close ++ ['>']))

/-- A tag in any spelling, with its closing tag in any case, is read as one element without
    content: with the name and the attribute names in lower case, and of the attributes with one
    name only the first. -/
theorem parseStrict_spelling (tag : TagSpelling) {close : List Char}
    (named : ∀ c ∈ close, isNameChar c = true) (same : nameOf close = tag.tag) :
    parseStrict (String.ofList (tag.alone close)) =
      .ok ⟨rootTag, [], [.element ⟨tag.tag, tag.kept, []⟩]⟩ := by
  have opens := tag.spells
  have written : ∃ openings, Written [.element ⟨tag.tag, tag.kept, []⟩] (tag.alone close) openings := by
    cases childless : tag.selfClosing || isVoidTag tag.tag with
    | true =>
      have alone : tag.alone close = tag.chars ++ [] := by simp [TagSpelling.alone, childless]
      rw [alone]
      exact ⟨_, .childless opens childless .nil⟩
    | false =>
      obtain ⟨notClosed, notVoid⟩ := Bool.or_eq_false_iff.mp childless
      have closes : Spells ('<' :: '/' :: (close ++ ([] ++ ['>']))) (.closing tag.tag) :=
        same ▸ .closing named (by simp) (by simp)
      have alone : tag.alone close =
          tag.chars ++ ([] ++ (('<' :: '/' :: (close ++ ([] ++ ['>']))) ++ [])) := by
        simp [TagSpelling.alone, childless]
      rw [alone]
      exact ⟨_, .element (notClosed ▸ opens) notVoid .nil closes .nil⟩
  obtain ⟨openings, written⟩ := written
  rw [← String.toList_ofList (l := tag.alone close)] at written
  obtain ⟨found, merged, parses⟩ := written.exists_parseStrict (by
    cases notVoid : isVoidTag tag.tag <;>
      simp [tagPlacesOf, Node.tagPlaces, Element.tagPlaces, notVoid])
  rw [parses, eq_of_mergedOf_childless merged]

def mixedTag : TagSpelling where
  letter := 'D'
  isAlpha := by decide
  name := ['i', 'V']
  named := List.all_eq_true.mp rfl
  attributes :=
    [⟨.space, Blanks.val_space_ne_nil, "Data-Subtype".toList, by decide, List.all_eq_true.mp rfl,
        .quoted (.of ['\t'] rfl) .space '\'' "a>b".toList rfl (by decide)⟩,
      ⟨.space, Blanks.val_space_ne_nil, "checked".toList, by decide, List.all_eq_true.mp rfl,
        .missing⟩,
      ⟨.space, Blanks.val_space_ne_nil, "title".toList, by decide, List.all_eq_true.mp rfl,
        .bare .none .none "&lt;/".toList (by decide) (List.all_eq_true.mp rfl)
          (by simp [isQuote])⟩,
      .quoted "TITLE" "later".toList (by decide) (List.all_eq_true.mp rfl) (by decide)]
  blanks := .of ['\n'] rfl
  selfClosing := false
  apart := by decide

theorem parseStrict_spelling_mixedTag :
    parseStrict "<DiV Data-Subtype\t= 'a>b' checked title=&lt;/ TITLE=\"later\"\n></dIV>" =
      .ok ⟨rootTag, [], [.element
        ⟨"div", [("data-subtype", "a>b"), ("checked", ""), ("title", "</")], []⟩]⟩ := by
  have written : String.ofList (mixedTag.alone "dIV".toList) =
      "<DiV Data-Subtype\t= 'a>b' checked title=&lt;/ TITLE=\"later\"\n></dIV>" := by decide
  have kept : mixedTag.kept = [("data-subtype", "a>b"), ("checked", ""), ("title", "</")] := by decide
  rw [← written, ← kept]
  exact parseStrict_spelling mixedTag (List.all_eq_true.mp rfl) (by decide)

end NoteMarkup
