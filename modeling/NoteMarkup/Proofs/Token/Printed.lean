import NoteMarkup.Proofs.Text.Blank
import NoteMarkup.Proofs.Text.Entity
import NoteMarkup.Proofs.Text.Letter
import NoteMarkup.Proofs.Tree.Printer
import NoteMarkup.Proofs.Tree.WellFormed
import NoteMarkup.Token

/-!
# Reading printed tokens

Every piece that the printer writes is read as the token it stands for, and reading ends
exactly where the piece ends.
-/

namespace NoteMarkup

theorem takeWhile_append_cons {p : Char → Bool} {cs rest : List Char} {stop : Char}
    (hall : ∀ c ∈ cs, p c = true) (hstop : p stop = false) :
    (cs ++ stop :: rest).takeWhile p = cs := by
  rw [List.takeWhile_append_of_pos hall, List.takeWhile_cons_of_neg (by simp [hstop]),
    List.append_nil]

theorem dropWhile_append_cons {p : Char → Bool} {cs rest : List Char} {stop : Char}
    (hall : ∀ c ∈ cs, p c = true) (hstop : p stop = false) :
    (cs ++ stop :: rest).dropWhile p = stop :: rest := by
  rw [List.dropWhile_append_of_pos hall, List.dropWhile_cons_of_neg (by simp [hstop])]

theorem nameOf_toList {name : String} (h : ∀ c ∈ name.toList, c.isUpper = false) :
    nameOf name.toList = name := by
  have hmap : name.toList.map Char.toLower = name.toList := by
    conv_rhs => rw [← List.map_id name.toList]
    exact List.map_congr_left fun c hc => Text.toLower_of_isUpper_eq_false (h c hc)
  rw [nameOf, hmap, String.ofList_toList]

theorem isNameChar_of_isTagChar {c : Char} (h : isTagChar c = true) :
    isNameChar c = true ∧ c.isUpper = false := by
  simp only [isTagChar, Bool.or_eq_true, beq_iff_eq] at h
  obtain (((h | h) | rfl) | rfl) | rfl := h
  · have letter := Text.isAlpha_of_isLower h
    exact ⟨by simp [isNameChar, Char.isAlphanum, letter], Text.isUpper_of_isLower h⟩
  · exact ⟨by simp [isNameChar, Char.isAlphanum, h], Text.isUpper_of_isDigit h⟩
  all_goals decide

theorem exists_cons_of_isTagName {tag : String} (h : isTagName tag = true) :
    ∃ c cs, tag.toList = c :: cs ∧ c.isLower = true ∧ ∀ d ∈ tag.toList, isTagChar d = true := by
  unfold isTagName at h
  split at h
  · cases h
  · rename_i c cs heq
    simp only [Bool.and_eq_true, List.all_eq_true] at h
    refine ⟨c, cs, heq, h.1, fun d hd => ?_⟩
    rw [heq] at hd
    cases hd with
    | head => simp [isTagChar, h.1]
    | tail _ hd => exact h.2 d hd

theorem isAttributeNameChar_of_isLowerNameChar {c : Char} (h : isLowerNameChar c = true) :
    isAttributeNameChar c = true ∧ c.isUpper = false := by
  simp only [isLowerNameChar, Bool.and_eq_true] at h
  simp only [isAttributeNameChar, Bool.and_eq_true]
  exact ⟨h.1, by simpa using h.2⟩

theorem exists_cons_of_isAttributeName {name : String} (h : isAttributeName name = true) :
    ∃ c cs, name.toList = c :: cs ∧ ∀ d ∈ name.toList, isLowerNameChar d = true := by
  simp only [isAttributeName, Bool.and_eq_true, List.all_eq_true] at h
  obtain ⟨hne, hall⟩ := h
  cases heq : name.toList with
  | nil => simp [String.toList_eq_nil_iff.mp heq] at hne
  | cons c cs => exact ⟨c, cs, rfl, fun d hd => hall d (heq ▸ hd)⟩

/-! ## Attributes -/

theorem readValue_escape (value : String) (rest : List Char) :
    readValue ('"' :: (Text.escapeChars value.toList ++ '"' :: rest)) = .ok (value, rest) := by
  have hall : ∀ c ∈ Text.escapeChars value.toList, (c != '"') = true := fun c hc => by
    simpa using (Text.ne_of_mem_escapeChars hc).2.2.1
  simp only [readValue, beq_self_eq_true, Bool.true_or, if_true]
  rw [dropWhile_append_cons hall (by decide), takeWhile_append_cons hall (by decide)]
  simp [valueOf, Text.unescapeChars_escapeChars]

theorem readAttribute_print {name : String} (h : isAttributeName name = true) (value : String)
    (rest : List Char) :
    readAttribute (name.toList ++ '=' :: '"' :: (Text.escapeChars value.toList ++ '"' :: rest)) =
      .ok ((name, value), rest) := by
  obtain ⟨-, -, -, hall⟩ := exists_cons_of_isAttributeName h
  have hname : ∀ c ∈ name.toList, isAttributeNameChar c = true := fun c hc =>
    (isAttributeNameChar_of_isLowerNameChar (hall c hc)).1
  have hkept : nameOf name.toList = name :=
    nameOf_toList fun c hc => (isAttributeNameChar_of_isLowerNameChar (hall c hc)).2
  simp only [readAttribute]
  rw [dropWhile_append_cons hname rfl, takeWhile_append_cons hname rfl, hkept,
    Text.trimLeft_cons_of_not_isBlank rfl]
  simp only
  rw [Text.trimLeft_cons_of_not_isBlank rfl, readValue_escape]
  rfl

theorem addAttribute_of_forall_ne {attributes : List (String × String)} {attr : String × String}
    (h : ∀ other ∈ attributes, other.1 ≠ attr.1) :
    addAttribute attributes attr = attributes ++ [attr] := by
  rw [addAttribute, if_neg]
  rw [List.lookup_isSome_iff]
  rintro ⟨other, hmem, heq⟩
  exact h other hmem (by simpa using (beq_iff_eq.mp heq).symm)

theorem readAttributes_close (attributes : List (String × String)) (rest : List Char) :
    readAttributes attributes ('>' :: rest) = .ok (attributes, false, rest) := by
  have htrim : Text.trimLeft ('>' :: rest) = '>' :: rest := Text.trimLeft_cons_of_not_isBlank rfl rest
  rw [readAttributes]
  split <;> simp_all

theorem readAttributes_attribute {attributes : List (String × String)} {attr : String × String}
    {cs inner after : List Char} {c : Char} (htrim : Text.trimLeft cs = c :: inner)
    (hc : isAttributeNameChar c = true) (hread : readAttribute (c :: inner) = .ok (attr, after)) :
    readAttributes attributes cs = readAttributes (addAttribute attributes attr) after := by
  rw [readAttributes]
  split
  · rename_i heq
    cases heq.symm.trans htrim
  · rename_i heq
    obtain ⟨rfl, -⟩ := List.cons.inj (heq.symm.trans htrim)
    exact absurd hc (by decide)
  · rename_i heq
    obtain ⟨rfl, -⟩ := List.cons.inj (heq.symm.trans htrim)
    exact absurd hc (by decide)
  · rename_i d rest _ _ heq
    obtain ⟨rfl, rfl⟩ := List.cons.inj (heq.symm.trans htrim)
    rw [dif_pos hc]
    split <;> simp_all

theorem readAttributes_printAttribute {found : List (String × String)} {name : String}
    (hname : isAttributeName name = true) (hnew : ∀ other ∈ found, other.1 ≠ name)
    (value : String) (rest : List Char) :
    readAttributes found ((printAttribute (name, value)).toList ++ rest) =
      readAttributes (found ++ [(name, value)]) rest := by
  obtain ⟨c, cs, heq, hall⟩ := exists_cons_of_isAttributeName hname
  have hc : isAttributeNameChar c = true :=
    (isAttributeNameChar_of_isLowerNameChar (hall c (by simp [heq]))).1
  have hblank : Text.isBlank c = false := by
    simp only [isAttributeNameChar, Bool.and_eq_true, Bool.not_eq_true'] at hc
    exact hc.1.1.1.1.1
  have hread := readAttribute_print hname value rest
  have htrim : Text.trimLeft ((printAttribute (name, value)).toList ++ rest) =
      name.toList ++ '=' :: '"' :: (Text.escapeChars value.toList ++ '"' :: rest) := by
    simp only [printAttribute, String.toList_append, Text.toList_escape, List.append_assoc]
    show Text.trimLeft (' ' :: (name.toList ++ _)) = _
    rw [Text.trimLeft_cons_of_isBlank rfl, heq, List.cons_append,
      Text.trimLeft_cons_of_not_isBlank hblank]
    rfl
  rw [heq, List.cons_append] at hread htrim
  rw [readAttributes_attribute htrim hc hread, addAttribute_of_forall_ne hnew]

/-- Printed attributes with new and distinct names are read one by one. -/
theorem readAttributes_printAttributes (attributes found : List (String × String))
    (rest : List Char) (hnames : ∀ attr ∈ attributes, isAttributeName attr.1 = true)
    (hdistinct : ((found ++ attributes).map Prod.fst).Nodup) :
    readAttributes found ((printAttributes attributes).toList ++ '>' :: rest) =
      .ok (found ++ attributes, false, rest) := by
  -- `found` grows by one attribute at a time, and distinctness is kept for both lists together
  induction attributes generalizing found with
  | nil =>
    rw [List.append_nil]
    exact readAttributes_close found rest
  | cons attr attributes ih =>
    have hnew : ∀ other ∈ found, other.1 ≠ attr.1 := by
      intro other hother heq
      rw [List.map_append, List.nodup_append] at hdistinct
      exact hdistinct.2.2 _ (List.mem_map_of_mem hother) _
        (List.mem_map_of_mem List.mem_cons_self) heq
    rw [printAttributes, List.map_cons, String.join_cons, ← printAttributes,
      String.toList_append, List.append_assoc,
      readAttributes_printAttribute (hnames attr List.mem_cons_self) hnew,
      ih (found ++ [attr]) (fun other h => hnames other (List.mem_cons_of_mem _ h))
        (by simpa using hdistinct)]
    simp

/-! ## Tags -/

theorem nameOf_takeWhile_isNameChar {tag : String} (h : isTagName tag = true) (stop : Char)
    (hstop : isNameChar stop = false) (rest : List Char) :
    nameOf ((tag.toList ++ stop :: rest).takeWhile isNameChar) = tag ∧
      (tag.toList ++ stop :: rest).dropWhile isNameChar = stop :: rest := by
  obtain ⟨-, -, -, -, hall⟩ := exists_cons_of_isTagName h
  have hname : ∀ c ∈ tag.toList, isNameChar c = true := fun c hc =>
    (isNameChar_of_isTagChar (hall c hc)).1
  rw [takeWhile_append_cons hname hstop, dropWhile_append_cons hname hstop]
  exact ⟨nameOf_toList fun c hc => (isNameChar_of_isTagChar (hall c hc)).2, rfl⟩

theorem exists_cons_printAttributes (attributes : List (String × String)) (rest : List Char) :
    ∃ stop after, (printAttributes attributes).toList ++ '>' :: rest = stop :: after ∧
      (stop = ' ' ∨ stop = '>') := by
  cases attributes with
  | nil => exact ⟨'>', rest, rfl, .inr rfl⟩
  | cons attr attributes =>
    refine ⟨' ', attr.1.toList ++ '=' :: '"' :: (Text.escapeChars attr.2.toList ++ '"' ::
      ((printAttributes attributes).toList ++ '>' :: rest)), ?_, .inl rfl⟩
    simp [printAttributes, printAttribute]

theorem readToken_of_isAlpha {c : Char} (h : c.isAlpha = true) (cs : List Char) :
    readToken ('<' :: c :: cs) = readOpening (c :: cs) := by
  unfold readToken
  split
  case h_5 heq =>
    obtain ⟨-, heq⟩ := List.cons.inj heq
    obtain ⟨rfl, rfl⟩ := List.cons.inj heq
    rw [if_pos h]
  case h_6 hne => exact absurd rfl (hne c cs)
  all_goals
    rename_i heq
    obtain ⟨-, heq⟩ := List.cons.inj heq
    obtain ⟨rfl, -⟩ := List.cons.inj heq
    exact absurd h (by decide)

/-- The printed opening tag of a well-named element is read as that tag. -/
theorem readToken_openingTag {e : Element} (named : e.WellNamed) (rest : List Char) :
    readToken ((openingTag e.tag e.attributes).toList ++ rest) =
      .ok (.opening e.tag e.attributes false, rest) := by
  obtain ⟨c, cs, heq, hlower, -⟩ := exists_cons_of_isTagName named.tag
  obtain ⟨stop, after, hafter, hstop⟩ := exists_cons_printAttributes e.attributes rest
  have hend : isNameChar stop = false := by obtain rfl | rfl := hstop <;> rfl
  have hname := nameOf_takeWhile_isNameChar named.tag stop hend after
  have halpha : c.isAlpha = true := Text.isAlpha_of_isLower hlower
  have hread := readAttributes_printAttributes e.attributes [] rest named.names named.distinct
  have hshape : (openingTag e.tag e.attributes).toList ++ rest =
      '<' :: (e.tag.toList ++ stop :: after) := by
    rw [← hafter]
    simp [openingTag]
  rw [hafter] at hread
  rw [hshape]
  have hopening : readOpening (e.tag.toList ++ stop :: after) =
      .ok (.opening e.tag e.attributes false, rest) := by
    rw [readOpening, hname.1, hname.2, hread]
    rfl
  rw [heq, List.cons_append] at hopening ⊢
  rw [readToken_of_isAlpha halpha, hopening]

/-- A printed closing tag is read as that tag. -/
theorem readToken_closingTag {tag : String} (h : isTagName tag = true) (rest : List Char) :
    readToken ((closingTag tag).toList ++ rest) = .ok (.closing tag, rest) := by
  have hname := nameOf_takeWhile_isNameChar h '>' rfl rest
  have hshape : (closingTag tag).toList ++ rest = '<' :: '/' :: (tag.toList ++ '>' :: rest) := by
    simp [closingTag]
  rw [hshape, readToken, readClosing, hname.1, hname.2, List.dropWhile_cons_of_neg (by decide)]

/-! ## Texts -/

/-- Behind a text there is nothing, or markup starts. -/
def EndsText (rest : List Char) : Prop :=
  rest = [] ∨ startsMarkup rest = true

theorem startsMarkup_cons_of_ne {c : Char} (h : c ≠ '<') (cs : List Char) :
    startsMarkup (c :: cs) = false := by
  unfold startsMarkup
  split
  · rename_i heq
    exact absurd (List.cons.inj heq).1 h
  · rfl

theorem spanText_append {cs rest : List Char} (h : ∀ c ∈ cs, c ≠ '<') (hrest : EndsText rest) :
    spanText (cs ++ rest) = (cs, rest) := by
  induction cs with
  | nil =>
    cases rest with
    | nil => rfl
    | cons c rest =>
      obtain hnil | hmarkup := hrest
      · cases hnil
      · rw [List.nil_append, spanText, if_pos hmarkup]
  | cons c cs ih =>
    have hc := startsMarkup_cons_of_ne (h c List.mem_cons_self) (cs ++ rest)
    rw [List.cons_append, spanText, if_neg (by simp [hc]),
      ih fun d hd => h d (List.mem_cons_of_mem _ hd)]

theorem readToken_of_startsMarkup_eq_false {cs : List Char} (h : startsMarkup cs = false) :
    readToken cs = .ok (readText cs) := by
  unfold readToken
  split
  case h_5 c cs _ _ _ _ =>
    rw [if_neg]
    intro halpha
    simp [startsMarkup, halpha] at h
  case h_6 => rfl
  all_goals simp [startsMarkup] at h

/-- A printed text is read as that text, if markup or nothing follows. -/
theorem readToken_escape {s : String} (hne : s ≠ "") {rest : List Char} (hrest : EndsText rest) :
    readToken ((Text.escape s).toList ++ rest) = .ok (.text s, rest) := by
  have hlt : ∀ c ∈ Text.escapeChars s.toList, c ≠ '<' := fun c hc =>
    (Text.ne_of_mem_escapeChars hc).1
  obtain ⟨c, cs, heq⟩ : ∃ c cs, Text.escapeChars s.toList = c :: cs :=
    List.exists_cons_of_ne_nil (by simpa using hne)
  have hstart : startsMarkup (Text.escapeChars s.toList ++ rest) = false := by
    rw [heq, List.cons_append]
    exact startsMarkup_cons_of_ne (hlt c (by simp [heq])) _
  rw [Text.toList_escape, readToken_of_startsMarkup_eq_false hstart, readText,
    spanText_append hlt hrest]
  simp [valueOf, Text.unescapeChars_escapeChars]

/-- A text that starts with a token is cut into that token and what follows it. -/
theorem lexemesOf_of_readToken {cs rest : List Char} {token : Token} (hne : cs ≠ [])
    (h : readToken cs = .ok (token, rest)) :
    lexemesOf cs = ⟨cs, token⟩ :: lexemesOf rest := by
  cases cs with
  | nil => exact absurd rfl hne
  | cons c cs =>
    rw [lexemesOf]
    split <;> simp_all

end NoteMarkup
