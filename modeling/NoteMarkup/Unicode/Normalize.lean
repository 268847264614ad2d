import NoteMarkup.Unicode.CombiningClass
import NoteMarkup.Unicode.Composition

/-!
# Canonical composition

Texts that differ only in how marks are attached to characters have one normal
form (NFC): every character is taken apart, the marks on each character are put
into the order of their classes, and what can be put together is.

- `decompose`, `orderMarks` and `compose` are the three steps;
- `normalize` is the normal form.
-/

namespace NoteMarkup.Unicode

/-! ## Taking apart -/

/-- The number of times that a character can be taken apart. -/
def maxDecompositions : Nat := 4

/-- The parts of a character that is taken apart at most `limit` times. -/
def decomposeChar : Nat → Char → List Char
  | 0, c => [c]
  | limit + 1, c =>
    match parts? c with
    | none => [c]
    | some (first, second) => decomposeChar limit first ++ [second]

def decompose (cs : List Char) : List Char :=
  cs.flatMap (decomposeChar maxDecompositions)

/-! ## Ordering marks -/

/-- Puts a character in front of others, behind those marks that belong before it. -/
def insertMark (c : Char) : List Char → List Char
  | [] => [c]
  | d :: ds =>
    if 0 < combiningClass d ∧ combiningClass d < combiningClass c then
      d :: insertMark c ds
    else
      c :: d :: ds

/-- The characters with the marks on each in the order of their classes. -/
def orderMarks (cs : List Char) : List Char :=
  cs.foldr insertMark []

/-! ## Putting together -/

/-- Puts characters together with `base`, the last character that was no mark.  `kept` are the
    marks behind it that stay on their own, the last one first; a character cannot pass one of
    the same or a higher class, and only a mark can pass any. -/
def composeWith (base : Char) (kept : List Char) : List Char → List Char
  | [] => base :: kept.reverse
  | c :: cs =>
    let blocked := match kept with
      | [] => false
      | last :: _ => decide (combiningClass c ≤ combiningClass last)
    match if blocked then none else compose? base c with
    | some composed => composeWith composed kept cs
    | none =>
      if combiningClass c = 0 then
        base :: kept.reverse ++ composeWith c [] cs
      else
        composeWith base (c :: kept) cs

def compose : List Char → List Char
  | [] => []
  | c :: cs => if combiningClass c = 0 then composeWith c [] cs else c :: compose cs

/-- The normal form of a text. -/
def normalize (cs : List Char) : List Char :=
  compose (orderMarks (decompose cs))

end NoteMarkup.Unicode
