/-!
# Punycode

Labels of host names that need more than ASCII are written with ASCII letters
and digits: the ASCII characters of the label, a hyphen, and then for each other
character, in the order of code points, how far on it is from the one before,
counted over all places where it could be inserted.

- `decode?` reads a label behind its prefix.
-/

namespace NoteMarkup.Url.Punycode

/-- The first code point that is not ASCII. -/
def initialCodePoint : Nat := 0x80

/-- The bias for the first number. -/
def initialBias : Nat := 72

/-- The greatest number that may occur. -/
def maxNumber : Nat := 0xFFFFFFFF

/-- The value of a digit in base 36. -/
def digitValue? (c : Char) : Option Nat :=
  if 'a' ≤ c ∧ c ≤ 'z' then
    some (c.toNat - 'a'.toNat)
  else if '0' ≤ c ∧ c ≤ '9' then
    some (c.toNat - '0'.toNat + 26)
  else
    none

/-- The digit at this place ends its number if it is below the threshold. -/
def threshold (place bias : Nat) : Nat :=
  min 26 (max 1 (place - bias))

/-- How often a difference can be scaled down, and what is left then. -/
def scaleDown (delta : Nat) : Nat × Nat :=
  if 455 < delta then
    let (times, left) := scaleDown (delta / 35)
    (times + 1, left)
  else
    (0, delta)
termination_by delta
decreasing_by omega

/-- The bias for the next number, from the last difference and the number of characters. -/
def adapt (delta count : Nat) (isFirst : Bool) : Nat :=
  let halved := if isFirst then delta / 700 else delta / 2
  let (times, left) := scaleDown (halved + halved / count)
  36 * times + 36 * left / (left + 38)

/-- Reads a number with a variable count of digits, and adds it to `total`. -/
def readDelta (bias place weight total : Nat) : List Char → Option (Nat × List Char)
  | [] => none
  | c :: cs => do
    let digit ← digitValue? c
    let total := total + digit * weight
    if maxNumber < digit * weight ∨ maxNumber < total then
      none
    else if digit < threshold place bias then
      return (total, cs)
    else
      let weight := weight * (36 - threshold place bias)
      if maxNumber < weight then none else readDelta bias (place + 36) weight total cs

theorem length_rest_readDelta {bias place weight total sum : Nat} {cs rest : List Char}
    (h : readDelta bias place weight total cs = some (sum, rest)) : rest.length < cs.length := by
  induction cs generalizing place weight total with
  | nil => simp [readDelta] at h
  | cons c cs ih =>
    simp only [readDelta] at h
    cases hd : digitValue? c with
    | none => simp [hd] at h
    | some digit =>
      simp only [hd, Option.bind_eq_bind, Option.bind_some] at h
      split at h
      · simp at h
      · split at h
        · simp only [Option.pure_def, Option.some.injEq, Prod.mk.injEq] at h
          simp [← h.2]
        · split at h
          · simp at h
          · have := ih h
            simp only [List.length_cons]
            omega

def charOf? (n : Nat) : Option Char :=
  if n.isValidChar then some (Char.ofNat n) else none

/-- Inserts the characters that more numbers stand for.  `place` is the place
    behind the last insertion. -/
def insertAll (found : List Char) (codePoint place bias : Nat) (cs : List Char) :
    Option (List Char) :=
  match cs with
  | [] => some found
  | c :: cs =>
    match _h : readDelta bias 36 1 place (c :: cs) with
    | none => none
    | some (sum, rest) =>
      let count := found.length + 1
      let codePoint := codePoint + sum / count
      match charOf? codePoint with
      | none => none
      | some inserted =>
        let found := found.take (sum % count) ++ inserted :: found.drop (sum % count)
        let bias := adapt (sum - place) count (place = 0)
        insertAll found codePoint (sum % count + 1) bias rest
termination_by cs.length
decreasing_by exact length_rest_readDelta _h

/-- The characters in front of the last hyphen, and those behind it.  Without a hyphen, or with
    none but the first character, there are none in front. -/
def splitBase (cs : List Char) : List Char × List Char :=
  let behind := (cs.reverse.takeWhile (· != '-')).reverse
  let front := cs.take (cs.length - behind.length - 1)
  if front.isEmpty then ([], cs) else (front, behind)

/-- The label that is written like this behind its prefix, in lower case. -/
def decode? (cs : List Char) : Option (List Char) :=
  let (base, deltas) := splitBase cs
  insertAll base initialCodePoint 0 initialBias deltas

end NoteMarkup.Url.Punycode
