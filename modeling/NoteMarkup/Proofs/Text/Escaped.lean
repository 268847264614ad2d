import NoteMarkup.Proofs.Text.Entity

/-!
# Texts in escaped form

Escaping writes exactly the texts in which nothing is left to escape, and reading entities is its
inverse on them.  `IsEscaped` is the form, said without escaping, and `escape_normalForm` the
statement about texts.
-/

namespace NoteMarkup.Text

def entities : List String := ["&amp;", "&lt;", "&gt;", "&quot;", "&#39;"]

def StartsEntity (cs : List Char) : Prop :=
  ∃ entity ∈ entities, entity.toList <+: cs

/-- No character has a meaning in markup, except that every `&` starts an entity. -/
structure IsEscaped (cs : List Char) : Prop where
  plain : ∀ c ∈ cs, c ≠ '<' ∧ c ≠ '>' ∧ c ≠ '"' ∧ c ≠ '\''
  entity : ∀ before after, cs = before ++ '&' :: after → StartsEntity ('&' :: after)

def specials : List Char := ['&', '<', '>', '"', '\'']

theorem exists_special_of_mem_entities :
    ∀ entity ∈ entities, ∃ c ∈ specials, entity.toList = escapeChar c := by
  simp [entities, specials, escapeChar]

theorem exists_entity_of_mem_specials :
    ∀ c ∈ specials, ∃ entity ∈ entities, entity.toList = escapeChar c := by
  simp [entities, specials, escapeChar]

theorem startsEntity_escapeChar_append {c : Char} (special : c ∈ specials) (cs : List Char) :
    StartsEntity (escapeChar c ++ cs) := by
  obtain ⟨entity, member, equal⟩ := exists_entity_of_mem_specials c special
  exact ⟨entity, member, equal ▸ List.prefix_append _ _⟩

theorem StartsEntity.exists_eq {cs : List Char} (h : StartsEntity cs) :
    ∃ c ∈ specials, ∃ rest, cs = escapeChar c ++ rest := by
  obtain ⟨entity, member, rest, equal⟩ := h
  obtain ⟨c, special, written⟩ := exists_special_of_mem_entities entity member
  exact ⟨c, special, rest, by rw [← equal, written]⟩

theorem escapeChar_of_not_mem {c : Char} (plain : c ∉ specials) : escapeChar c = [c] := by
  unfold escapeChar
  split
  case h_6 => rfl
  all_goals exact absurd (by decide) plain

/-- An entity starts with its only `&`. -/
theorem escapeChar_of_mem :
    ∀ c ∈ specials, escapeChar c = '&' :: (escapeChar c).tail ∧ '&' ∉ (escapeChar c).tail := by
  simp [specials, escapeChar]

theorem length_escapeChar_of_mem : ∀ c ∈ specials, 1 < (escapeChar c).length := by
  simp [specials, escapeChar]

/-! ## Reading entities -/

theorem unescapeChars_escapeChar_append (c : Char) (cs : List Char) :
    unescapeChars (escapeChar c ++ cs) = c :: unescapeChars cs := by
  simpa [escapeChars] using unescapeChars_escapeChars_append [c] cs

/-- Reading entities goes through a text from the left, over the entity in front where there is one
    and else over one character. -/
@[elab_as_elim]
theorem unescapeChars_induct {motive : List Char → Prop} (nil : motive [])
    (entity : ∀ c ∈ specials, ∀ cs, motive cs → motive (escapeChar c ++ cs))
    (other : ∀ c cs, ¬ StartsEntity (c :: cs) →
      unescapeChars (c :: cs) = c :: unescapeChars cs → motive cs → motive (c :: cs))
    (cs : List Char) : motive cs := by
  fun_induction unescapeChars cs with
  | case1 cs ih => exact entity '&' (by decide) cs ih
  | case2 cs ih => exact entity '<' (by decide) cs ih
  | case3 cs ih => exact entity '>' (by decide) cs ih
  | case4 cs ih => exact entity '"' (by decide) cs ih
  | case5 cs ih => exact entity '\'' (by decide) cs ih
  | case6 c cs amp lt gt quot apos ih =>
    refine other c cs (fun starts => ?_) (by rw [unescapeChars] <;> assumption) ih
    obtain ⟨special, member, rest, equal⟩ := starts.exists_eq
    simp only [specials, List.mem_cons, List.not_mem_nil, or_false] at member
    obtain rfl | rfl | rfl | rfl | rfl := member <;> injection equal with first rest
    · exact amp _ first rest
    · exact lt _ first rest
    · exact gt _ first rest
    · exact quot _ first rest
    · exact apos _ first rest
  | case7 => exact nil

theorem IsEscaped.of_append {cs rest : List Char} (h : IsEscaped (cs ++ rest)) : IsEscaped rest := by
  refine ⟨fun c member => h.plain c (List.mem_append_right _ member), fun before after equal => ?_⟩
  exact h.entity (cs ++ before) after (by rw [equal, List.append_assoc])

/-- A text in escaped form is what is written for the text that its entities are read as. -/
theorem escapeChars_unescapeChars {cs : List Char} (h : IsEscaped cs) :
    escapeChars (unescapeChars cs) = cs := by
  induction cs using unescapeChars_induct with
  | nil => rfl
  | entity c special cs ih =>
    rw [unescapeChars_escapeChar_append, escapeChars_cons, ih h.of_append]
  | other c cs noEntity read ih =>
    -- an escaped text has no `&` but in front of an entity
    have amp : c ≠ '&' := by
      rintro rfl
      exact noEntity (h.entity [] cs rfl)
    have plain : c ∉ specials := by
      simpa [specials, amp] using h.plain c List.mem_cons_self
    rw [read, escapeChars_cons, escapeChar_of_not_mem plain,
      ih (@IsEscaped.of_append [c] cs h), List.singleton_append]

theorem IsEscaped.escapeChar_append {cs : List Char} (h : IsEscaped cs) (c : Char) :
    IsEscaped (escapeChar c ++ cs) := by
  constructor
  · intro d member
    obtain member | member := List.mem_append.mp member
    · exact @ne_of_mem_escapeChars d [c] (by simpa [escapeChars] using member)
    · exact h.plain d member
  · intro before after equal
    by_cases special : c ∈ specials
    · obtain ⟨written, single⟩ := escapeChar_of_mem c special
      cases before with
      | nil =>
        rw [List.nil_append] at equal
        rw [← equal]
        exact startsEntity_escapeChar_append special cs
      | cons d before =>
        rw [written, List.cons_append, List.cons_append] at equal
        obtain ⟨more, -, behind⟩ | ⟨more, within, behind⟩ :=
          List.append_eq_append_iff.mp (List.cons.inj equal).2
        · exact h.entity more after behind
        · cases more with
          | nil => exact h.entity [] after behind.symm
          | cons e more =>
            rw [within, ← (List.cons.inj behind).1] at single
            exact absurd (List.mem_append_right _ List.mem_cons_self) single
    · rw [escapeChar_of_not_mem special] at equal
      cases before with
      | nil =>
        rw [(List.cons.inj equal).1] at special
        exact absurd (by decide) special
      | cons d before => exact h.entity before after (List.cons.inj equal).2

/-- What is written for a text is in escaped form. -/
theorem isEscaped_escapeChars (cs : List Char) : IsEscaped (escapeChars cs) := by
  induction cs with
  | nil =>
    refine ⟨fun _ h => (List.not_mem_nil h).elim, fun before after equal => ?_⟩
    simp [escapeChars] at equal
  | cons c cs ih =>
    rw [escapeChars_cons]
    exact ih.escapeChar_append c

theorem length_unescapeChars_le (cs : List Char) : (unescapeChars cs).length ≤ cs.length := by
  induction cs using unescapeChars_induct with
  | nil => exact Nat.le_refl _
  | entity c special cs ih =>
    have longer := length_escapeChar_of_mem c special
    rw [unescapeChars_escapeChar_append, List.length_cons, List.length_append]
    omega
  | other c cs noEntity read ih =>
    rw [read]
    exact Nat.succ_le_succ ih

/-- Reading entities leaves exactly the texts alone in which no entity stands. -/
theorem unescapeChars_eq_self_iff {cs : List Char} :
    unescapeChars cs = cs ↔ ∀ entity ∈ entities, ¬ entity.toList <:+: cs := by
  induction cs using unescapeChars_induct with
  | nil => decide
  | entity c special cs ih =>
    obtain ⟨entity, member, written⟩ := exists_entity_of_mem_specials c special
    refine iff_of_false (fun equal => ?_) fun none => none entity member ?_
    -- an entity is longer than the one character that it is read as
    · have shorter := length_unescapeChars_le cs
      have longer : 1 < (escapeChar c).length := length_escapeChar_of_mem c special
      rw [unescapeChars_escapeChar_append] at equal
      have same := congrArg List.length equal
      rw [List.length_cons, List.length_append] at same
      omega
    · rw [written]
      exact (List.prefix_append _ _).isInfix
  | other c cs noEntity read ih =>
    rw [read, List.cons_inj_right, ih]
    refine forall₂_congr fun entity member => not_congr ?_
    rw [List.infix_cons_iff]
    exact ⟨.inr, fun stands => stands.resolve_left fun front => noEntity ⟨entity, member, front⟩⟩

/-- An entity is read once, and one that is cut off is none. -/
example : unescapeChars "&amp;lt;&&am".toList = "&lt;&&am".toList := by decide

/-! ## Texts -/

theorem unescape_escape (s : String) : unescape (escape s) = s := by
  rw [unescape, toList_escape, unescapeChars_escapeChars, String.ofList_toList]

theorem escape_unescape_iff {s : String} : escape (unescape s) = s ↔ IsEscaped s.toList := by
  constructor
  · intro h
    rw [← h, toList_escape]
    exact isEscaped_escapeChars _
  · intro h
    rw [escape, unescape, String.toList_ofList, escapeChars_unescapeChars h, String.ofList_toList]

/-- Escaping and reading entities are inverse to each other between all texts and those in escaped
    form: no bracket and no quote stands in these, and every `&` starts an entity.  Reading and
    escaping again puts any text in that form, and a second time changes nothing.  Reading alone
    changes exactly the texts in which an entity stands. -/
theorem escape_normalForm :
    (∀ s, unescape (escape s) = s) ∧
    (∀ s, escape (unescape s) = s ↔ IsEscaped s.toList) ∧
    (∀ s, IsEscaped s.toList ↔ ∃ t, s = escape t) ∧
    (∀ s, escape (unescape (escape (unescape s))) = escape (unescape s)) ∧
    (∀ s, unescape s = s ↔ ∀ entity ∈ entities, ¬ entity.toList <:+: s.toList) := by
  refine ⟨unescape_escape, fun s => escape_unescape_iff, fun s => ⟨fun h => ?_, ?_⟩,
    fun s => by rw [unescape_escape], fun s => ?_⟩
  · exact ⟨unescape s, (escape_unescape_iff.mpr h).symm⟩
  · rintro ⟨t, rfl⟩
    rw [toList_escape]
    exact isEscaped_escapeChars _
  · rw [← unescapeChars_eq_self_iff, unescape, ← String.toList_inj, String.toList_ofList]

end NoteMarkup.Text
