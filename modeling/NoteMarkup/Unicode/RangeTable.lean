import NoteMarkup.Text.Blank

/-!
# Tables of code points

Properties of characters that have no short rule are kept as tables, written the
way standards print them: code points and ranges of code points in hexadecimal.

- `readHex` reads a number in base sixteen;
- `RangeTable` gives a value to each code point of some ranges, found by halving;
- `CodePointSet` is such a table without values.
-/

namespace NoteMarkup.Unicode

/-! ## Hexadecimal numbers -/

def hexValue? (c : Char) : Option Nat :=
  if '0' ≤ c ∧ c ≤ '9' then
    some (c.toNat - '0'.toNat)
  else if 'a' ≤ c ∧ c ≤ 'f' then
    some (c.toNat - 'a'.toNat + 10)
  else if 'A' ≤ c ∧ c ≤ 'F' then
    some (c.toNat - 'A'.toNat + 10)
  else
    none

/-- A number in base sixteen; other characters count as zero. -/
def readHex (digits : String) : Nat :=
  digits.toList.foldl (fun n c => 16 * n + (hexValue? c).getD 0) 0

/-- A character by its code point in base sixteen. -/
def readChar (digits : String) : Char :=
  Char.ofNat (readHex digits)

/-- The ends of a range `first-last`, or of a single code point. -/
def readRange (range : String) : Nat × Nat :=
  match range.splitOn "-" with
  | [first, last] => (readHex first, readHex last)
  | _ => (readHex range, readHex range)

/-! ## Tables -/

/-- Values for ranges of code points, which are sorted and do not overlap. -/
structure RangeTable (α : Type) where
  entries : Array (Nat × Nat × α)

namespace RangeTable

variable {α : Type}

/-- The entry for a code point among those from `low` up to, not including, `high`. -/
def findBetween (table : RangeTable α) (n low high : Nat) : Option (Nat × Nat × α) :=
  if low < high then
    let middle := (low + high) / 2
    match table.entries[middle]? with
    | none => none
    | some (first, last, value) =>
      if n < first then
        table.findBetween n low middle
      else if last < n then
        table.findBetween n (middle + 1) high
      else
        some (first, last, value)
  else
    none
termination_by high - low

def entry? (table : RangeTable α) (n : Nat) : Option (Nat × Nat × α) :=
  table.findBetween n 0 table.entries.size

/-- The value for a character, if one of the ranges holds it. -/
def find? (table : RangeTable α) (c : Char) : Option α :=
  (table.entry? c.toNat).map fun (_, _, value) => value

/-- The table that a list of `range=value` with blanks between them stands for. -/
def ofString (read : String → α) (entries : String) : RangeTable α :=
  ⟨(Text.words entries).toArray.map fun entry =>
    match entry.splitOn "=" with
    | [range, value] =>
      let (first, last) := readRange range
      (first, last, read value)
    | _ =>
      let (first, last) := readRange entry
      (first, last, read "")⟩

end RangeTable

/-- A set of code points. -/
abbrev CodePointSet := RangeTable Unit

namespace CodePointSet

/-- The set that a list of ranges with blanks between them stands for. -/
def ofString (ranges : String) : CodePointSet :=
  RangeTable.ofString (fun _ => ()) ranges

def contains (set : CodePointSet) (c : Char) : Bool :=
  (set.find? c).isSome

end CodePointSet

end NoteMarkup.Unicode
