import NoteMarkup.Text.Blank
import NoteMarkup.Text.Entity

/-!
# Escaping and reading entities

Escaped text holds none of the characters with a meaning of their own in markup, and
reading its entities gives the text back, whatever follows.
-/

namespace NoteMarkup.Text

theorem escapeChars_cons (c : Char) (cs : List Char) :
    escapeChars (c :: cs) = escapeChar c ++ escapeChars cs := by
  rw [escapeChars, List.flatMap_cons, ← escapeChars]

theorem unescapeChars_cons {c : Char} (hc : c ≠ '&') (cs : List Char) :
    unescapeChars (c :: cs) = c :: unescapeChars cs := by
  rw [unescapeChars] <;> simp_all

/-- The entities of escaped text are read back, and reading goes on behind it. -/
theorem unescapeChars_escapeChars_append (cs rest : List Char) :
    unescapeChars (escapeChars cs ++ rest) = cs ++ unescapeChars rest := by
  induction cs with
  | nil => rfl
  | cons c cs ih =>
    rw [escapeChars_cons, List.append_assoc]
    unfold escapeChar
    split
    case h_6 _ hamp _ _ _ _ =>
      rw [List.singleton_append, unescapeChars_cons (fun h => hamp h), ih]
      rfl
    all_goals simp [unescapeChars, ih]

/-- Reading entities undoes escaping. -/
theorem unescapeChars_escapeChars (cs : List Char) : unescapeChars (escapeChars cs) = cs := by
  simpa [unescapeChars] using unescapeChars_escapeChars_append cs []

theorem unescapeChars_ne_nil {cs : List Char} (h : cs ≠ []) : unescapeChars cs ≠ [] := by
  cases cs with
  | nil => exact absurd rfl h
  | cons c cs => unfold unescapeChars; split <;> simp_all

/-- Escaped text holds no angle brackets and no quotes. -/
theorem ne_of_mem_escapeChars {c : Char} {cs : List Char} (h : c ∈ escapeChars cs) :
    c ≠ '<' ∧ c ≠ '>' ∧ c ≠ '"' ∧ c ≠ '\'' := by
  obtain ⟨d, -, hd⟩ := List.mem_flatMap.mp h
  unfold escapeChar at hd
  split at hd
  case h_6 _ hlt hgt hquot hapos =>
    rw [List.mem_singleton.mp hd]
    exact ⟨hlt, hgt, hquot, hapos⟩
  all_goals
    simp only [List.mem_cons, List.not_mem_nil, or_false] at hd
    obtain rfl | rfl | rfl | rfl | rfl | rfl := hd <;> decide

@[simp]
theorem escapeChars_eq_nil_iff {cs : List Char} : escapeChars cs = [] ↔ cs = [] := by
  cases cs with
  | nil => simp [escapeChars]
  | cons c cs =>
    have : escapeChar c ≠ [] := by unfold escapeChar; split <;> simp
    simp [escapeChars, this]

/-- Escaping neither makes nor removes a blank text. -/
theorem all_isBlank_escapeChars (cs : List Char) :
    (escapeChars cs).all isBlank = cs.all isBlank := by
  induction cs with
  | nil => rfl
  | cons c cs ih =>
    have hchar : (escapeChar c).all isBlank = isBlank c := by
      unfold escapeChar
      split <;> first | decide | simp
    rw [escapeChars_cons, List.all_append, hchar, ih, List.all_cons]

theorem escapeChars_of_all_isBlank {cs : List Char} (h : cs.all isBlank = true) :
    escapeChars cs = cs := by
  induction cs with
  | nil => rfl
  | cons c cs ih =>
    simp only [List.all_cons, Bool.and_eq_true] at h
    have own : escapeChar c = [c] := by
      unfold escapeChar
      split
      case h_6 => rfl
      all_goals exact absurd h.1 (by decide)
    rw [escapeChars_cons, own, ih h.2, List.singleton_append]

@[simp]
theorem toList_escape (s : String) : (escape s).toList = escapeChars s.toList := by
  simp [escape]

theorem escape_append (s t : String) : escape (s ++ t) = escape s ++ escape t := by
  apply String.ext
  simp

@[simp]
theorem escape_eq_empty_iff {s : String} : escape s = "" ↔ s = "" := by
  rw [← String.toList_eq_nil_iff, toList_escape, escapeChars_eq_nil_iff, String.toList_eq_nil_iff]

end NoteMarkup.Text
