import NoteMarkup.Decimal.Shortest

/-!
# JSON numbers

A number is an integer where it has neither fraction nor exponent and fits 64
bits, and a floating-point number otherwise.

- `Number.ofParts` is the number for digits and a power of ten;
- `Number.text` writes a number: a floating-point number with the fewest digits
  that read back, positional from `0.00001` up to sixteen digits.
-/

namespace NoteMarkup.Json

/-- A number in a JSON text. -/
inductive Number where
  | integer (n : Int)
  | float (x : Float)
  deriving Repr, Inhabited

def maxInteger : Nat := 0xFFFFFFFFFFFFFFFF

/-! ## Reading -/

/-- `significand * 10 ^ exponent`, in one step where the power of ten is a double and else in
    steps of `10 ^ 308` downwards.  There is none if the result is too large. -/
def scale (significand : Float) (exponent : Int) : Option Float :=
  if 308 < exponent.natAbs then
    if significand == 0 then
      some significand
    else if 0 ≤ exponent then
      none
    else
      scale (significand / Float.ofScientific 1 false 308) (exponent + 308)
  else if 0 ≤ exponent then
    let x := significand * Float.ofScientific 1 false exponent.toNat
    if x.isInf then none else some x
  else
    some (significand / Float.ofScientific 1 false exponent.natAbs)
termination_by exponent.natAbs
decreasing_by omega

/-- The floating-point number for digits that fit 64 bits and a power of ten, unless it is too
    large. -/
def Number.ofParts (negative : Bool) (significand : Nat) (exponent : Int) : Option Number :=
  (scale (UInt64.ofNat significand).toFloat exponent).map fun x =>
    .float (if negative then -x else x)

/-- The number for an integer whose digits fit 64 bits.  Zero with a sign and what is too small
    for a signed integer are floating-point numbers. -/
def Number.ofInteger (negative : Bool) (magnitude : Nat) : Number :=
  if !negative then
    .integer magnitude
  else if magnitude = 0 || 0x8000000000000000 < magnitude then
    .float (-(UInt64.ofNat magnitude).toFloat)
  else
    .integer (-magnitude)

/-! ## Writing -/

/-- The text of a positive floating-point number with these digits, the first of which counts
    `10 ^ power`. -/
def floatDigits (digits : List Char) (power : Int) : String :=
  if -5 ≤ power ∧ power ≤ 15 then
    if (digits.length : Int) ≤ power + 1 then
      String.ofList (digits ++ List.replicate (power.toNat + 1 - digits.length) '0') ++ ".0"
    else if 0 ≤ power then
      String.ofList (digits.take (power.toNat + 1)) ++ "." ++
        String.ofList (digits.drop (power.toNat + 1))
    else
      "0." ++ String.ofList (List.replicate ((-power).toNat - 1) '0' ++ digits)
  else
    let mantissa := match digits with
      | [] => ""
      | [digit] => String.singleton digit
      | digit :: more => String.singleton digit ++ "." ++ String.ofList more
    let sign := if 0 ≤ power then "+" else "-"
    mantissa ++ "e" ++ sign ++ toString power.natAbs

def floatText (x : Float) : String :=
  let bits := x.toBits.toNat
  let sign := if 0x8000000000000000 ≤ bits then "-" else ""
  if bits % 0x8000000000000000 = 0 then
    sign ++ "0.0"
  else
    let decimal := (Decimal.Binary.ofBits bits).shortest
    let digits := Nat.toDigits 10 decimal.digits
    let significant := (digits.reverse.dropWhile (· == '0')).reverse
    sign ++ floatDigits significant (decimal.exponent + digits.length - 1)

def Number.text : Number → String
  | .integer n => toString n
  | .float x => floatText x

end NoteMarkup.Json
