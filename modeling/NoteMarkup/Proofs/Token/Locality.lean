import NoteMarkup.Proofs.Token.Printed

/-!
# A tag is read from its own characters

Reading an opening tag looks at the characters up to its `>` and at nothing behind it, so the
same characters are read as the same tag in front of anything else.
-/

namespace NoteMarkup

theorem dropWhile_eq_cons {p : Char → Bool} {cs rest : List Char} {stop : Char}
    (h : cs.dropWhile p = stop :: rest) :
    ∃ run, cs = run ++ stop :: rest ∧ (∀ c ∈ run, p c = true) ∧ p stop = false := by
  refine ⟨cs.takeWhile p, ?_, fun c hc => List.all_eq_true.mp List.all_takeWhile c hc, ?_⟩
  · rw [← h, List.takeWhile_append_dropWhile]
  · have stops := List.head_dropWhile_not p (l := cs) (by simp [h])
    simpa [h] using stops

/-- Blanks end at the next character, whatever follows that one. -/
theorem trimLeft_local (own : List Char) {cs rest : List Char} {stop : Char}
    (h : Text.trimLeft cs = own ++ stop :: rest) :
    ∃ blanks, cs = blanks ++ (own ++ stop :: rest) ∧ (∀ b ∈ blanks, Text.isBlank b = true) ∧
      ∀ other, Text.trimLeft (blanks ++ (own ++ stop :: other)) = own ++ stop :: other := by
  cases own with
  | nil =>
    obtain ⟨blanks, equal, blank, ends⟩ := dropWhile_eq_cons h
    exact ⟨blanks, equal, blank, fun other => dropWhile_append_cons blank ends⟩
  | cons c own =>
    obtain ⟨blanks, equal, blank, ends⟩ := dropWhile_eq_cons h
    exact ⟨blanks, equal, blank, fun other => dropWhile_append_cons blank ends⟩

/-! ## Attributes -/

def isQuote (c : Char) : Bool :=
  c == '"' || c == '\''

theorem readValue_of_isQuote {c : Char} (quote : isQuote c = true) (cs : List Char) :
    readValue (c :: cs) =
      match cs.dropWhile (· != c) with
      | [] => .error .attributeValue
      | _ :: rest => .ok (valueOf (cs.takeWhile (· != c)), rest) :=
  if_pos quote

theorem readValue_of_not_isQuote {c : Char} (quote : ¬ isQuote c = true) (cs : List Char) :
    readValue (c :: cs) =
      .ok (valueOf ((c :: cs).takeWhile isBareValueChar), (c :: cs).dropWhile isBareValueChar) :=
  if_neg quote

/-- A value in quotes goes up to the next quote of its kind. -/
theorem readValue_quoted {quote : Char} (mark : isQuote quote = true) {run : List Char}
    (inside : ∀ c ∈ run, (c != quote) = true) (rest : List Char) :
    readValue (quote :: (run ++ quote :: rest)) = .ok (valueOf run, rest) := by
  have ends : (quote != quote) = false := by simp
  rw [readValue_of_isQuote mark, dropWhile_append_cons inside ends, takeWhile_append_cons inside ends]

/-- Without quotes it goes up to a blank or a `>`. -/
theorem readValue_bare {run : List Char} {stop : Char}
    (plain : ∀ c ∈ (run ++ [stop]).head?, isQuote c = false)
    (bare : ∀ c ∈ run, isBareValueChar c = true) (ends : isBareValueChar stop = false)
    (rest : List Char) : readValue (run ++ stop :: rest) = .ok (valueOf run, stop :: rest) := by
  obtain ⟨c, cs, shape, first⟩ : ∃ c cs, run ++ stop :: rest = c :: cs ∧ isQuote c = false := by
    cases run with
    | nil => exact ⟨stop, rest, rfl, plain stop rfl⟩
    | cons c run => exact ⟨c, run ++ stop :: rest, rfl, plain c rfl⟩
  have other : ¬ isQuote c = true := by simp [first]
  rw [shape, readValue_of_not_isQuote other, ← shape, takeWhile_append_cons bare ends,
    dropWhile_append_cons bare ends]

/-- A value ends at the next character, whatever follows that one. -/
theorem readValue_local {cs rest : List Char} {stop : Char} {value : String}
    (h : readValue cs = .ok (value, stop :: rest)) :
    ∃ own, cs = own ++ stop :: rest ∧
      ∀ other, readValue (own ++ stop :: other) = .ok (value, stop :: other) := by
  cases cs with
  | nil => cases h
  | cons c cs =>
    by_cases quote : isQuote c = true
    · rw [readValue_of_isQuote quote] at h
      split at h
      · cases h
      · rename_i last after dropped
        cases h
        obtain ⟨run, rfl, inside, ends⟩ := dropWhile_eq_cons dropped
        obtain rfl : last = c := by simpa using ends
        rw [takeWhile_append_cons inside ends]
        refine ⟨last :: (run ++ [last]), by simp, fun other => ?_⟩
        rw [List.cons_append, List.append_assoc]
        exact readValue_quoted quote inside (stop :: other)
    · rw [readValue_of_not_isQuote quote] at h
      simp only [Except.ok.injEq, Prod.mk.injEq] at h
      obtain ⟨rfl, dropped⟩ := h
      obtain ⟨run, shape, bare, ends⟩ := dropWhile_eq_cons dropped
      have plain : ∀ first ∈ (run ++ [stop]).head?, isQuote first = false := by
        cases run with
        | nil | cons =>
          obtain ⟨rfl, -⟩ := List.cons.inj shape
          simpa using quote
      refine ⟨run, shape, fun other => ?_⟩
      rw [shape, takeWhile_append_cons bare ends]
      exact readValue_bare plain bare ends other

/-- A name ends at the blanks behind it, or without them at the character that follows. -/
theorem span_attributeName {name blanks : List Char} {stop : Char}
    (named : ∀ c ∈ name, isAttributeNameChar c = true) (blank : ∀ b ∈ blanks, Text.isBlank b = true)
    (ends : blanks = [] → isAttributeNameChar stop = false) (rest : List Char) :
    (name ++ (blanks ++ stop :: rest)).takeWhile isAttributeNameChar = name ∧
      (name ++ (blanks ++ stop :: rest)).dropWhile isAttributeNameChar = blanks ++ stop :: rest := by
  cases blanks with
  | nil => exact ⟨takeWhile_append_cons named (ends rfl), dropWhile_append_cons named (ends rfl)⟩
  | cons b blanks =>
    have first : isAttributeNameChar b = false := by
      simp [isAttributeNameChar, blank b List.mem_cons_self]
    exact ⟨takeWhile_append_cons named first, dropWhile_append_cons named first⟩

section

variable {name blanks : List Char}

/-- With a `=` behind its name, an attribute has the value that follows. -/
theorem readAttribute_append_value (named : ∀ c ∈ name, isAttributeNameChar c = true)
    (blank : ∀ b ∈ blanks, Text.isBlank b = true) {behind after : List Char} {value : String}
    (reads : readValue (Text.trimLeft behind) = .ok (value, after)) :
    readAttribute (name ++ (blanks ++ '=' :: behind)) = .ok ((nameOf name, value), after) := by
  have ends : blanks = [] → isAttributeNameChar '=' = false := fun _ => rfl
  obtain ⟨taken, left⟩ := span_attributeName named blank ends behind
  have trimmed : Text.trimLeft (blanks ++ '=' :: behind) = '=' :: behind :=
    dropWhile_append_cons blank rfl
  rw [readAttribute, taken, left, trimmed]
  simp only [reads]
  rfl

/-- Without one it is empty, and what follows is left. -/
theorem readAttribute_append_of_ne (named : ∀ c ∈ name, isAttributeNameChar c = true)
    (blank : ∀ b ∈ blanks, Text.isBlank b = true) {stop : Char}
    (ends : blanks = [] → isAttributeNameChar stop = false) (shown : Text.isBlank stop = false)
    (plain : stop ≠ '=') (rest : List Char) :
    readAttribute (name ++ (blanks ++ stop :: rest)) = .ok ((nameOf name, ""), stop :: rest) := by
  obtain ⟨taken, left⟩ := span_attributeName named blank ends rest
  have trimmed : Text.trimLeft (blanks ++ stop :: rest) = stop :: rest :=
    dropWhile_append_cons blank shown
  rw [readAttribute, taken, left, trimmed]
  simp only
  split
  · rename_i heq
    exact absurd (List.cons.inj heq).1 plain
  · rfl

end

/-- An attribute in front of something is of one of these two forms. -/
theorem exists_of_readAttribute {cs rest : List Char} {stop : Char} {attr : String × String}
    (h : readAttribute cs = .ok (attr, stop :: rest)) :
    ∃ name blanks, (∀ c ∈ name, isAttributeNameChar c = true) ∧
      (∀ b ∈ blanks, Text.isBlank b = true) ∧
      ((∃ behind value, cs = name ++ (blanks ++ '=' :: behind) ∧ attr = (nameOf name, value) ∧
        readValue (Text.trimLeft behind) = .ok (value, stop :: rest)) ∨
      (cs = name ++ (blanks ++ stop :: rest) ∧ attr = (nameOf name, "") ∧
        (blanks = [] → isAttributeNameChar stop = false) ∧ Text.isBlank stop = false ∧
        stop ≠ '=')) := by
  have split : cs = cs.takeWhile isAttributeNameChar ++ cs.dropWhile isAttributeNameChar :=
    List.takeWhile_append_dropWhile.symm
  have named : ∀ c ∈ cs.takeWhile isAttributeNameChar, isAttributeNameChar c = true := fun c hc =>
    List.all_eq_true.mp List.all_takeWhile c hc
  simp only [readAttribute] at h
  split at h
  · rename_i after behindName
    obtain ⟨blanks, dropped, blank, -⟩ := dropWhile_eq_cons behindName
    cases value : readValue (Text.trimLeft after) with
    | error construct => simp [value, bind, Except.bind] at h
    | ok result =>
      simp only [value, bind, Except.bind, pure, Except.pure, Except.ok.injEq, Prod.mk.injEq] at h
      obtain ⟨rfl, behind⟩ := h
      refine ⟨_, blanks, named, blank, .inl ⟨after, result.1, ?_, rfl, ?_⟩⟩
      · rwa [← dropped]
      · rw [value, ← behind]
  · rename_i noValue
    simp only [Except.ok.injEq, Prod.mk.injEq] at h
    obtain ⟨rfl, behindName⟩ := h
    obtain ⟨blanks, dropped, blank, shown⟩ := dropWhile_eq_cons behindName
    refine ⟨_, blanks, named, blank, .inr ⟨by rwa [← dropped], rfl, ?_, shown, ?_⟩⟩
    · -- what follows the name directly does not go on with it
      rintro rfl
      exact (dropWhile_eq_cons dropped).choose_spec.2.2
    · rintro rfl
      exact noValue rest behindName

/-- A blank, a `>` or any other character that follows an attribute ends it, whatever comes
    behind that character. -/
theorem readAttribute_local {cs rest : List Char} {stop : Char} {attr : String × String}
    (h : readAttribute cs = .ok (attr, stop :: rest)) :
    ∃ own, cs = own ++ stop :: rest ∧
      ∀ other, readAttribute (own ++ stop :: other) = .ok (attr, stop :: other) := by
  obtain ⟨name, blanks, named, blank, ⟨behind, value, rfl, rfl, reads⟩ |
    ⟨rfl, rfl, ends, shown, plain⟩⟩ := exists_of_readAttribute h
  · obtain ⟨own, equal, readsOwn⟩ := readValue_local reads
    obtain ⟨more, rfl, -, trims⟩ := trimLeft_local own equal
    refine ⟨name ++ (blanks ++ '=' :: (more ++ own)), by simp, fun other => ?_⟩
    have readsValue := readsOwn other
    rw [← trims other] at readsValue
    have readsAll := readAttribute_append_value named blank readsValue
    simpa using readsAll
  · refine ⟨name ++ blanks, by simp, fun other => ?_⟩
    rw [List.append_assoc]
    exact readAttribute_append_of_ne named blank ends shown plain other

section

variable {attributes : List (String × String)} {cs rest : List Char}

theorem readAttributes_of_close (htrim : Text.trimLeft cs = '>' :: rest) :
    readAttributes attributes cs = .ok (attributes, false, rest) := by
  rw [readAttributes]
  split <;> simp_all

theorem readAttributes_of_selfClose (htrim : Text.trimLeft cs = '/' :: '>' :: rest) :
    readAttributes attributes cs = .ok (attributes, true, rest) := by
  rw [readAttributes]
  split <;> simp_all

theorem readAttributes_of_stray {c : Char} (htrim : Text.trimLeft cs = c :: rest)
    (hc : ¬ isAttributeNameChar c = true) (opened : c ≠ '>')
    (slash : c = '/' → rest.head? ≠ some '>') :
    readAttributes attributes cs = readAttributes attributes rest := by
  rw [readAttributes]
  split
  · rename_i heq
    cases heq.symm.trans htrim
  · rename_i heq
    obtain ⟨rfl, -⟩ := List.cons.inj (heq.symm.trans htrim)
    exact absurd rfl opened
  · rename_i heq
    obtain ⟨rfl, rfl⟩ := List.cons.inj (heq.symm.trans htrim)
    exact absurd rfl (slash rfl)
  · rename_i heq
    obtain ⟨rfl, rfl⟩ := List.cons.inj (heq.symm.trans htrim)
    rw [dif_neg hc]

end

/-- The attributes of a tag are read from the characters up to its `>` and no others. -/
theorem readAttributes_local {attributes found : List (String × String)} {cs rest : List Char}
    {selfClosing : Bool} (h : readAttributes attributes cs = .ok (found, selfClosing, rest)) :
    ∃ own, cs = own ++ rest ∧
      ∀ other, readAttributes attributes (own ++ other) = .ok (found, selfClosing, other) := by
  fun_induction readAttributes attributes cs with
  | case1 => cases h
  | case2 attributes cs behind htrim =>
    cases h
    obtain ⟨blanks, equal, -, trims⟩ := trimLeft_local [] htrim
    refine ⟨blanks ++ ['>'], by simp [equal], fun other => ?_⟩
    rw [List.append_assoc]
    exact readAttributes_of_close (trims other)
  | case3 attributes cs behind htrim =>
    cases h
    obtain ⟨blanks, equal, -, trims⟩ := trimLeft_local ['/'] htrim
    refine ⟨blanks ++ ['/', '>'], by simp [equal], fun other => ?_⟩
    rw [List.append_assoc]
    exact readAttributes_of_selfClose (trims other)
  | case4 => cases h
  | case5 attributes cs c inner close selfClose htrim hc attr after hread ih =>
    obtain ⟨own, rfl, reads⟩ := ih h
    -- more follows the attribute, as a tag without its `>` is cut off
    cases own with
    | nil => exact absurd (reads []) (by simp [readAttributes, Text.trimLeft])
    | cons stop own =>
      obtain ⟨taken, equal, readsOne⟩ := readAttribute_local hread
      obtain ⟨tail, first⟩ : ∃ tail, taken ++ stop :: own = c :: tail := by
        cases taken with
        | nil => exact ⟨own, by rw [(List.cons.inj equal).1, List.nil_append]⟩
        | cons d taken => exact ⟨taken ++ stop :: own, by rw [(List.cons.inj equal).1]; rfl⟩
      rw [equal] at htrim
      obtain ⟨blanks, skipped, -, trims⟩ := trimLeft_local taken htrim
      refine ⟨blanks ++ (c :: tail), by simp [skipped, ← first], fun other => ?_⟩
      have trimmed : Text.trimLeft (blanks ++ (c :: tail) ++ other) = c :: (tail ++ other) := by
        rw [← List.cons_append, ← first]
        simpa using trims (own ++ other)
      have readsFirst : readAttribute (c :: (tail ++ other)) =
          .ok (attr, stop :: (own ++ other)) := by
        rw [← List.cons_append, ← first]
        simpa using readsOne (own ++ other)
      rw [readAttributes_attribute trimmed hc readsFirst]
      exact reads other
  | case6 attributes cs c inner close selfClose htrim hc ih =>
    obtain ⟨own, rfl, reads⟩ := ih h
    cases own with
    | nil => exact absurd (reads []) (by simp [readAttributes, Text.trimLeft])
    | cons first own =>
      obtain ⟨blanks, skipped, -, trims⟩ := trimLeft_local [] htrim
      refine ⟨blanks ++ c :: first :: own, by simp [skipped], fun other => ?_⟩
      rw [List.append_assoc]
      refine (readAttributes_of_stray (trims (first :: own ++ other)) hc ?_ ?_).trans (reads other)
      · rintro rfl
        exact close rfl
      · rintro rfl ends
        obtain rfl := Option.some.inj ends
        exact selfClose _ rfl rfl

/-! ## Opening tags -/

theorem readOpening_eq_ok {cs rest : List Char} {token : Token}
    (h : readOpening cs = .ok (token, rest)) :
    ∃ attributes selfClosing,
      readAttributes [] (cs.dropWhile isNameChar) = .ok (attributes, selfClosing, rest) ∧
        token = .opening (nameOf (cs.takeWhile isNameChar)) attributes selfClosing := by
  simp only [readOpening] at h
  cases found : readAttributes [] (cs.dropWhile isNameChar) with
  | error construct => simp [found, bind, Except.bind] at h
  | ok result =>
    obtain ⟨attributes, selfClosing, behind⟩ := result
    simp only [found, bind, Except.bind, pure, Except.pure, Except.ok.injEq, Prod.mk.injEq] at h
    exact ⟨attributes, selfClosing, by rw [h.2], h.1.symm⟩

/-- An opening tag is read from the characters up to its `>` and no others. -/
theorem readOpening_local {cs rest : List Char} {token : Token}
    (h : readOpening cs = .ok (token, rest)) :
    ∃ own, own ≠ [] ∧ cs = own ++ rest ∧
      ∀ other, readOpening (own ++ other) = .ok (token, other) := by
  obtain ⟨attributes, selfClosing, found, rfl⟩ := readOpening_eq_ok h
  obtain ⟨own, equal, reads⟩ := readAttributes_local found
  cases own with
  | nil => exact absurd (reads []) (by simp [readAttributes, Text.trimLeft])
  | cons stop own =>
    obtain ⟨name, shape, named, ends⟩ := dropWhile_eq_cons equal
    have taken : cs.takeWhile isNameChar = name := by
      rw [shape, takeWhile_append_cons named ends]
    refine ⟨name ++ stop :: own, by simp, by simpa using shape, fun other => ?_⟩
    rw [List.append_assoc, List.cons_append, readOpening, taken, takeWhile_append_cons named ends,
      dropWhile_append_cons named ends, ← List.cons_append, reads]
    rfl

end NoteMarkup
