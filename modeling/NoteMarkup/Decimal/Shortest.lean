/-!
# Shortest decimals

The fewest decimal digits that still tell a binary floating-point number from
its neighbours.

- `Binary` is a positive number `significand * 2 ^ exponent` together with the
  interval of reals that round to it;
- `Binary.shortest` is the decimal of fewest digits in that interval, and of
  those the one nearest to the number.

All comparisons are exact, between natural numbers.
-/

namespace NoteMarkup

/-- A positive number `digits * 10 ^ exponent`. -/
structure Decimal where
  digits : Nat
  exponent : Int
  deriving Repr, DecidableEq, Inhabited

namespace Decimal

/-- A positive number `significand * 2 ^ exponent`.  The number below it is nearer than the
    one above where the significand is the smallest of its size. -/
structure Binary where
  significand : Nat
  exponent : Int
  isSmallestOfSize : Bool
  deriving Repr, DecidableEq, Inhabited

/-- The finite positive number that these bits of a double stand for, sign aside. -/
def Binary.ofBits (bits : Nat) : Binary :=
  let field : Nat := bits / 0x10000000000000 % 0x800
  let fraction : Nat := bits % 0x10000000000000
  if field = 0 then
    ⟨fraction, -1074, false⟩
  else
    ⟨0x10000000000000 + fraction, (field : Int) - 1075, fraction = 0 ∧ 1 < field⟩

def digitCount (n : Nat) : Nat :=
  (Nat.toDigits 10 n).length

/-- The power of ten of the first digit of a positive fraction: the `p` with
    `10 ^ p ≤ numerator / denominator < 10 ^ (p + 1)`. -/
def leadingPower (numerator denominator : Nat) : Int :=
  if denominator ≤ numerator then
    (digitCount (numerator / denominator) : Int) - 1
  else
    -(digitCount ((denominator - 1) / numerator) : Int)

namespace Binary

/-- A quarter of the distance to the number above is `2 ^ unitExponent`. -/
def unitExponent (x : Binary) : Int :=
  x.exponent - 2

/-- The numerator of `n` quarters, over `denominator`. -/
def quarters (x : Binary) (n : Nat) : Nat :=
  n <<< x.unitExponent.toNat

def denominator (x : Binary) : Nat :=
  1 <<< (-x.unitExponent).toNat

/-- The decimal lies among the reals that round to the number.  The ends of that interval
    belong to it if the significand is even. -/
def admits (x : Binary) (d : Decimal) : Bool :=
  let below := if x.isSmallestOfSize then 1 else 2
  let numerator := d.digits * Nat.pow 10 d.exponent.toNat * x.denominator
  let scale := Nat.pow 10 (-d.exponent).toNat
  let low := x.quarters (4 * x.significand - below) * scale
  let high := x.quarters (4 * x.significand + 2) * scale
  if x.significand % 2 = 0 then
    low ≤ numerator && numerator ≤ high
  else
    low < numerator && numerator < high

/-- The two decimals with this exponent on either side of the number, the nearer one first. -/
def neighbours (x : Binary) (exponent : Int) : List Decimal :=
  let numerator := x.quarters (4 * x.significand) * Nat.pow 10 (-exponent).toNat
  let denominator := x.denominator * Nat.pow 10 exponent.toNat
  let below := numerator / denominator
  let distance := 2 * (numerator % denominator)
  let belowFirst := distance < denominator || (distance = denominator && below % 2 = 0)
  if belowFirst then
    [⟨below, exponent⟩, ⟨below + 1, exponent⟩]
  else
    [⟨below + 1, exponent⟩, ⟨below, exponent⟩]

/-- The shortest decimal in the interval of the number: the first grid from one digit to
    seventeen that has a point in it gives the nearest of its points. -/
def shortest (x : Binary) : Decimal :=
  let power := leadingPower (x.quarters (4 * x.significand)) x.denominator
  let grids := (List.range 17).map fun (n : Nat) => power - (n : Int)
  let candidates := grids.flatMap x.neighbours
  (candidates.find? x.admits).getD ⟨0, 0⟩

end Binary

end Decimal

end NoteMarkup
