/-!
# Blank characters

Everything that looks at spacing (tags, class lists, headings, summaries) uses
one class of characters, the White_Space property of Unicode:

- `isBlank` decides the class;
- `trim` removes blanks at both ends of a text;
- `words` cuts a text into its maximal runs of other characters.
-/

namespace NoteMarkup.Text

/-- The White_Space property of Unicode. -/
def isBlank (c : Char) : Bool :=
  let n := c.toNat
  (0x09 ≤ n && n ≤ 0x0D) || n == 0x20 || n == 0x85 || n == 0xA0 || n == 0x1680 ||
    (0x2000 ≤ n && n ≤ 0x200A) || n == 0x2028 || n == 0x2029 || n == 0x202F ||
    n == 0x205F || n == 0x3000

/-! ## Trimming -/

theorem length_dropWhile_le {α : Type} (p : α → Bool) (xs : List α) :
    (xs.dropWhile p).length ≤ xs.length :=
  (List.dropWhile_sublist p).length_le

/-- The characters without the blanks in front. -/
def trimLeft (cs : List Char) : List Char :=
  cs.dropWhile isBlank

theorem length_trimLeft_le (cs : List Char) : (trimLeft cs).length ≤ cs.length :=
  length_dropWhile_le isBlank cs

/-- The characters without the blanks at the end. -/
def trimRight (cs : List Char) : List Char :=
  (trimLeft cs.reverse).reverse

/-- The text without the blanks at both ends. -/
def trim (s : String) : String :=
  String.ofList (trimRight (trimLeft s.toList))

/-! ## Words -/

/-- The maximal runs of characters that are not blank, in order. -/
def wordsOf : List Char → List (List Char)
  | [] => []
  | c :: cs =>
    if isBlank c then
      wordsOf cs
    else
      (c :: cs.takeWhile (!isBlank ·)) :: wordsOf (cs.dropWhile (!isBlank ·))
termination_by cs => cs.length
decreasing_by
  · simp
  · exact Nat.lt_succ_of_le (length_dropWhile_le _ cs)

def words (s : String) : List String :=
  (wordsOf s.toList).map String.ofList

end NoteMarkup.Text
