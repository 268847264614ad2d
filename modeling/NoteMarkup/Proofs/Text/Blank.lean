import NoteMarkup.Text.Blank

/-!
# Blank texts
-/

namespace NoteMarkup.Text

theorem trimLeft_cons_of_isBlank {c : Char} (h : isBlank c = true) (cs : List Char) :
    trimLeft (c :: cs) = trimLeft cs := by
  rw [trimLeft, List.dropWhile_cons_of_pos h, trimLeft]

theorem trimLeft_cons_of_not_isBlank {c : Char} (h : isBlank c = false) (cs : List Char) :
    trimLeft (c :: cs) = c :: cs := by
  rw [trimLeft, List.dropWhile_cons_of_neg (by simp [h])]

theorem trimLeft_eq_nil_iff {cs : List Char} : trimLeft cs = [] ↔ cs.all isBlank = true := by
  induction cs with
  | nil => simp [trimLeft]
  | cons c cs ih =>
    cases blank : isBlank c with
    | true => rw [trimLeft_cons_of_isBlank blank, ih, List.all_cons, blank, Bool.true_and]
    | false =>
      rw [trimLeft_cons_of_not_isBlank blank, List.all_cons, blank]
      simp

theorem all_trimLeft_eq_true_iff {cs : List Char} :
    (trimLeft cs).all isBlank = true ↔ cs.all isBlank = true := by
  induction cs with
  | nil => simp [trimLeft]
  | cons c cs ih =>
    cases blank : isBlank c with
    | true => rw [trimLeft_cons_of_isBlank blank, ih, List.all_cons, blank, Bool.true_and]
    | false => rw [trimLeft_cons_of_not_isBlank blank]

/-- Trimming leaves nothing of a blank text, and something of every other one. -/
theorem isEmpty_trim (s : String) : (trim s).isEmpty = s.toList.all isBlank := by
  rw [Bool.eq_iff_iff, String.isEmpty_iff, trim, String.ofList_eq_empty_iff, trimRight,
    List.reverse_eq_nil_iff, trimLeft_eq_nil_iff, List.all_reverse, all_trimLeft_eq_true_iff]

structure IsTrimmed (s : String) : Prop where
  first : ∀ c ∈ s.toList.head?, isBlank c = false
  last : ∀ c ∈ s.toList.getLast?, isBlank c = false

theorem head?_trimLeft (cs : List Char) : ∀ c ∈ (trimLeft cs).head?, isBlank c = false := by
  intro c h
  have first := List.head?_dropWhile_not isBlank cs
  rw [← trimLeft, h] at first
  exact first

theorem trimRight_prefix (cs : List Char) : trimRight cs <+: cs := by
  rw [← List.reverse_suffix, trimRight, List.reverse_reverse]
  exact List.dropWhile_suffix _

theorem isTrimmed_trim (s : String) : IsTrimmed (trim s) := by
  constructor
  · intro c h
    rw [trim, String.toList_ofList] at h
    obtain ⟨rest, equal⟩ := trimRight_prefix (trimLeft s.toList)
    apply head?_trimLeft s.toList
    rw [← equal, List.head?_append, h]
    rfl
  · intro c h
    rw [trim, String.toList_ofList, trimRight, List.getLast?_reverse] at h
    exact head?_trimLeft _ c h

theorem isTrimmed_empty : IsTrimmed "" := by
  constructor <;> simp

end NoteMarkup.Text
