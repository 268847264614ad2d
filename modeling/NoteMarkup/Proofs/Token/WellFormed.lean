import NoteMarkup.Proofs.Token.Printed

/-!
# Tokens are well-formed

Whatever a text holds, the names in its tokens are names that reading keeps, no tag has two
attributes of one name, and no token is an empty text.
-/

namespace NoteMarkup

/-- A text is not empty, and an opening tag has names that reading keeps. -/
def Token.WellFormed : Token → Prop
  | .text s => s ≠ ""
  | .opening tag attributes _ => Element.WellNamed ⟨tag, attributes, []⟩
  | .comment | .declaration | .closing _ | .cutOff _ => True

theorem isTagChar_toLower {c : Char} (h : isNameChar c = true) : isTagChar c.toLower = true := by
  simp only [isNameChar, Char.isAlphanum, Bool.or_eq_true, beq_iff_eq] at h
  obtain (((h | h) | rfl) | rfl) | rfl := h
  · simp [isTagChar, Text.isLower_toLower h]
  · simp [isTagChar, Text.toLower_of_isUpper_eq_false (Text.isUpper_of_isDigit h), h]
  all_goals decide

theorem isTagName_nameOf {c : Char} {cs : List Char} (hc : c.isAlpha = true)
    (hall : ∀ d ∈ cs, isNameChar d = true) : isTagName (nameOf (c :: cs)) = true := by
  simp only [isTagName, nameOf, String.toList_ofList, List.map_cons, Bool.and_eq_true,
    List.all_map, List.all_eq_true]
  exact ⟨Text.isLower_toLower hc, fun d hd => isTagChar_toLower (hall d hd)⟩

theorem isLowerNameChar_toLower {c : Char} (h : isAttributeNameChar c = true) :
    isLowerNameChar c.toLower = true := by
  cases hupper : c.isUpper with
  | true =>
    have lower : c.toLower.isLower = true := by
      apply Text.isLower_toLower
      rw [Text.isAlpha_eq, hupper, Bool.true_or]
    exact isLowerNameChar_of_isTagChar (by simp [isTagChar, lower])
  | false =>
    rw [Text.toLower_of_isUpper_eq_false hupper]
    simp only [isAttributeNameChar] at h
    simp [isLowerNameChar, hupper, h]

theorem isAttributeName_nameOf {cs : List Char} (hne : cs ≠ [])
    (hall : ∀ d ∈ cs, isAttributeNameChar d = true) : isAttributeName (nameOf cs) = true := by
  have hnonempty : nameOf cs ≠ "" := by
    rw [nameOf, ne_eq, ← String.toList_eq_nil_iff, String.toList_ofList, List.map_eq_nil_iff]
    exact hne
  simp only [isAttributeName, Bool.and_eq_true, Bool.not_eq_true', nameOf, String.toList_ofList,
    List.all_map, List.all_eq_true]
  exact ⟨by simpa [nameOf] using hnonempty, fun d hd => isLowerNameChar_toLower (hall d hd)⟩

structure AttributesKept (attributes : List (String × String)) : Prop where
  names : ∀ attr ∈ attributes, isAttributeName attr.1 = true
  distinct : (attributes.map Prod.fst).Nodup

theorem AttributesKept.addAttribute {attributes : List (String × String)} {attr : String × String}
    (kept : AttributesKept attributes) (hname : isAttributeName attr.1 = true) :
    AttributesKept (addAttribute attributes attr) := by
  unfold NoteMarkup.addAttribute
  split
  · exact kept
  · rename_i hnone
    constructor
    · intro other hother
      obtain hold | hnew := List.mem_append.mp hother
      · exact kept.names other hold
      · rw [List.mem_singleton.mp hnew]
        exact hname
    · rw [List.map_append, List.nodup_append]
      refine ⟨kept.distinct, by simp, ?_⟩
      intro name hold other hnew heq
      obtain ⟨old, hmem, rfl⟩ := List.mem_map.mp hold
      obtain rfl := List.mem_singleton.mp hnew
      exact hnone (List.lookup_isSome_iff.mpr ⟨old, hmem, by simp [heq]⟩)

theorem isAttributeName_of_readAttribute {c : Char} {cs rest : List Char} {attr : String × String}
    (hc : isAttributeNameChar c = true) (h : readAttribute (c :: cs) = .ok (attr, rest)) :
    isAttributeName attr.1 = true := by
  have hname : isAttributeName (nameOf ((c :: cs).takeWhile isAttributeNameChar)) = true := by
    refine isAttributeName_nameOf ?_ fun d hd => ?_
    · rw [List.takeWhile_cons_of_pos hc]
      exact List.cons_ne_nil _ _
    · exact List.all_eq_true.mp List.all_takeWhile d hd
  simp only [readAttribute] at h
  split at h
  · rename_i after heq
    cases hvalue : readValue (Text.trimLeft after) with
    | error construct => simp [hvalue, bind, Except.bind] at h
    | ok result =>
      simp only [hvalue, bind, Except.bind, pure, Except.pure, Except.ok.injEq, Prod.mk.injEq] at h
      rw [← h.1]
      exact hname
  · simp only [Except.ok.injEq, Prod.mk.injEq] at h
    rw [← h.1]
    exact hname

/-- The attributes that are read are those that a tag can have. -/
theorem AttributesKept.readAttributes {attributes found : List (String × String)}
    {cs rest : List Char} {selfClosing : Bool} (kept : AttributesKept attributes)
    (h : readAttributes attributes cs = .ok (found, selfClosing, rest)) : AttributesKept found := by
  fun_induction NoteMarkup.readAttributes attributes cs with
  | case1 => cases h
  | case2 => cases h; exact kept
  | case3 => cases h; exact kept
  | case4 => cases h
  | case5 attributes cs c rest _ _ _ hc attr after hread ih =>
    exact ih (kept.addAttribute (isAttributeName_of_readAttribute hc hread)) h
  | case6 attributes cs c rest _ _ _ _ ih => exact ih kept h

/-! ## Tokens -/

theorem Token.wellFormed_of_readOpening {c : Char} {cs rest : List Char} {token : Token}
    (hc : c.isAlpha = true) (h : readOpening (c :: cs) = .ok (token, rest)) :
    token.WellFormed := by
  have hname : isNameChar c = true := by simp [isNameChar, Char.isAlphanum, hc]
  have htag : isTagName (nameOf ((c :: cs).takeWhile isNameChar)) = true := by
    rw [List.takeWhile_cons_of_pos hname]
    exact isTagName_nameOf hc fun d hd => List.all_eq_true.mp List.all_takeWhile d hd
  simp only [readOpening] at h
  cases hread : readAttributes [] ((c :: cs).dropWhile isNameChar) with
  | error construct => simp [hread, bind, Except.bind] at h
  | ok result =>
    obtain ⟨found, selfClosing, after⟩ := result
    simp only [hread, bind, Except.bind, pure, Except.pure, Except.ok.injEq, Prod.mk.injEq] at h
    have kept : AttributesKept found :=
      AttributesKept.readAttributes ⟨fun _ h => (List.not_mem_nil h).elim, List.nodup_nil⟩ hread
    rw [← h.1]
    exact ⟨htag, kept.names, kept.distinct⟩

theorem Token.wellFormed_readText {cs : List Char} (hne : cs ≠ []) (h : startsMarkup cs = false) :
    (readText cs).1.WellFormed := by
  cases cs with
  | nil => exact absurd rfl hne
  | cons c cs =>
    have hvalue := Text.unescapeChars_ne_nil (List.cons_ne_nil c (spanText cs).1)
    simp only [readText, spanText, h, Bool.false_eq_true, if_false, WellFormed, valueOf, ne_eq,
      ← String.toList_eq_nil_iff, String.toList_ofList]
    exact hvalue

theorem Token.wellFormed_of_readToken {cs rest : List Char} {token : Token} (hne : cs ≠ [])
    (h : readToken cs = .ok (token, rest)) : token.WellFormed := by
  by_cases starts : startsMarkup cs = true
  · unfold readToken at h
    split at h
    case h_1 =>
      simp only [readClosing] at h
      split at h
      · cases h
      · cases h
        trivial
    case h_5 =>
      split at h
      · exact wellFormed_of_readOpening ‹_› h
      · simp_all [startsMarkup]
    case h_6 other =>
      unfold startsMarkup at starts
      split at starts
      · exact absurd rfl (other _ _)
      · cases starts
    all_goals
      cases h
      trivial
  · rw [Bool.not_eq_true] at starts
    have text := wellFormed_readText hne starts
    rw [readToken_of_startsMarkup_eq_false starts, Except.ok.injEq] at h
    rwa [h] at text

/-- Every token of a text is well-formed. -/
theorem wellFormed_of_mem_lexemesOf {cs : List Char} {lexeme : Lexeme}
    (h : lexeme ∈ lexemesOf cs) : lexeme.token.WellFormed := by
  fun_induction lexemesOf cs with
  | case1 => cases h
  | case2 c cs construct hread =>
    rw [List.mem_singleton.mp h]
    trivial
  | case3 c cs token rest hread ih =>
    cases h with
    | head => exact Token.wellFormed_of_readToken (List.cons_ne_nil c cs) hread
    | tail _ h => exact ih h

end NoteMarkup
