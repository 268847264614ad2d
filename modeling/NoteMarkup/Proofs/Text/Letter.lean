/-!
# Letters in lower case

Putting a character in lower case changes the ASCII capitals and nothing else.
-/

namespace NoteMarkup.Text

theorem isUpper_iff {c : Char} : c.isUpper = true ↔ 65 ≤ c.toNat ∧ c.toNat ≤ 90 := by
  unfold Char.isUpper
  simp [UInt32.le_iff_toNat_le, ← Char.toNat_val]

theorem isLower_iff {c : Char} : c.isLower = true ↔ 97 ≤ c.toNat ∧ c.toNat ≤ 122 := by
  unfold Char.isLower
  simp [UInt32.le_iff_toNat_le, ← Char.toNat_val]

theorem isDigit_iff {c : Char} : c.isDigit = true ↔ 48 ≤ c.toNat ∧ c.toNat ≤ 57 := by
  unfold Char.isDigit
  simp [UInt32.le_iff_toNat_le, ← Char.toNat_val]

theorem isAlpha_eq (c : Char) : c.isAlpha = (c.isUpper || c.isLower) := rfl

theorem isAlpha_of_isLower {c : Char} (h : c.isLower = true) : c.isAlpha = true := by
  rw [isAlpha_eq, h, Bool.or_true]

theorem toLower_of_isUpper_eq_false {c : Char} (h : c.isUpper = false) : c.toLower = c := by
  unfold Char.toLower
  rw [dif_neg]
  unfold Char.isUpper at h
  simpa using h

/-- A capital becomes the small letter that stands 32 places behind it. -/
theorem toNat_toLower_of_isUpper {c : Char} (h : c.isUpper = true) :
    c.toLower.toNat = c.toNat + 32 := by
  obtain ⟨lower, upper⟩ := isUpper_iff.mp h
  unfold Char.isUpper at h
  unfold Char.toLower
  rw [dif_pos (by simpa using h)]
  change (c.val + 32).toNat = c.val.toNat + 32
  rw [UInt32.toNat_add, Nat.mod_eq_of_lt]
  · rfl
  · change c.toNat + 32 < 4294967296
    omega

theorem isLower_toLower {c : Char} (h : c.isAlpha = true) : c.toLower.isLower = true := by
  cases hupper : c.isUpper with
  | false =>
    rw [toLower_of_isUpper_eq_false hupper]
    rwa [isAlpha_eq, hupper, Bool.false_or] at h
  | true =>
    obtain ⟨lower, upper⟩ := isUpper_iff.mp hupper
    rw [isLower_iff, toNat_toLower_of_isUpper hupper]
    omega

theorem isUpper_of_isLower {c : Char} (h : c.isLower = true) : c.isUpper = false := by
  obtain ⟨lower, -⟩ := isLower_iff.mp h
  rw [Bool.eq_false_iff, ne_eq, isUpper_iff]
  omega

theorem isUpper_of_isDigit {c : Char} (h : c.isDigit = true) : c.isUpper = false := by
  obtain ⟨-, upper⟩ := isDigit_iff.mp h
  rw [Bool.eq_false_iff, ne_eq, isUpper_iff]
  omega

end NoteMarkup.Text
