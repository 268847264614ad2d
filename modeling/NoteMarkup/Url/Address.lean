import NoteMarkup.Unicode.RangeTable

/-!
# Internet addresses

The two forms of a host that is no name.

- `isIpv4` accepts one to four numbers, in base ten, eight or sixteen;
- `isIpv6` accepts eight groups of hexadecimal digits, where `::` stands for at
  least one of them and the last two can be four decimal numbers;
- `endsInNumber` says which hosts must be addresses of the first form.
-/

namespace NoteMarkup.Url

/-! ## Four numbers -/

/-- The value of digits in a base, if all are digits of it. -/
def numberInBase? (base : Nat) (digits : List Char) : Option Nat :=
  digits.foldlM (fun n c => do
    let digit ← Unicode.hexValue? c
    if digit < base then some (n * base + digit) else none) 0

/-- A number of an address.  A leading `0x` makes it hexadecimal and a leading zero octal, and
    nothing behind those is zero. -/
def addressNumber? : List Char → Option Nat
  | [] => none
  | '0' :: 'x' :: digits => numberInBase? 16 digits
  | '0' :: 'X' :: digits => numberInBase? 16 digits
  | '0' :: digits => numberInBase? 8 digits
  | digits => numberInBase? 10 digits

def dropRootLabel (labels : List (List Char)) : List (List Char) :=
  if labels.getLast? = some [] then labels.dropLast else labels

/-- The last label is a number, so the host can only be an address. -/
def endsInNumber (labels : List (List Char)) : Bool :=
  match (dropRootLabel labels).getLast? with
  | none => false
  | some last => (!last.isEmpty && last.all Char.isDigit) || (addressNumber? last).isSome

/-- The labels are the numbers of an address.  The last one fills what the others leave. -/
def isIpv4 (labels : List (List Char)) : Bool :=
  match (dropRootLabel labels).mapM addressNumber? with
  | none => false
  | some numbers =>
    match numbers.reverse with
    | [] => false
    | last :: others =>
      others.length < 4 && others.all (· ≤ 255) && last < Nat.pow 256 (4 - others.length)

/-! ## Eight groups -/

/-- A number from 0 to 255 in base ten without leading zeros. -/
def isDecimalByte (digits : List Char) : Bool :=
  match digits with
  | [] => false
  | ['0'] => true
  | '0' :: _ => false
  | digits =>
    match numberInBase? 10 digits with
    | none => false
    | some n => n ≤ 255

/-- The parts of a text between dots; there is always at least one. -/
def splitDots : List Char → List (List Char)
  | [] => [[]]
  | c :: cs =>
    if c == '.' then
      [] :: splitDots cs
    else
      match splitDots cs with
      | [] => [[c]]
      | part :: parts => (c :: part) :: parts

def isDottedBytes (cs : List Char) : Bool :=
  let parts := splitDots cs
  parts.length == 4 && parts.all isDecimalByte

def isHexDigit (c : Char) : Bool :=
  (Unicode.hexValue? c).isSome

/-- The rest of an address is right behind `count` groups, among which a `::` counts as one. -/
def isIpv6From (count : Nat) (compressed : Bool) (cs : List Char) : Bool :=
  match cs with
  | [] => compressed || count == 8
  | c :: rest =>
    if 8 ≤ count then
      false
    else if c == ':' then
      !compressed && isIpv6From (count + 1) true rest
    else
      let digits := ((c :: rest).take 4).takeWhile isHexDigit
      match (c :: rest).drop digits.length with
      | [] => compressed || count + 1 == 8
      | '.' :: _ =>
        !digits.isEmpty && count ≤ 6 && isDottedBytes (c :: rest) && (compressed || count == 6)
      | [':'] => false
      | ':' :: d :: after => isIpv6From (count + 1) compressed (d :: after)
      | _ => false
termination_by 8 - count

/-- The text is an address of eight groups. -/
def isIpv6 : List Char → Bool
  | ':' :: ':' :: cs => isIpv6From 1 true cs
  | ':' :: _ => false
  | cs => isIpv6From 0 false cs

end NoteMarkup.Url
