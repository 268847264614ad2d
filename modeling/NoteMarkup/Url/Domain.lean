import NoteMarkup.Unicode.Direction
import NoteMarkup.Unicode.HostMapping
import NoteMarkup.Unicode.Joining
import NoteMarkup.Unicode.Mark
import NoteMarkup.Unicode.Normalize
import NoteMarkup.Url.Address
import NoteMarkup.Url.Punycode

/-!
# Domain names

Which texts are names of hosts, with characters of all scripts allowed.

- `prepare?` gives names that mean the same host one form;
- `expandLabel?` reads labels that are written with ASCII characters;
- `isLabel` and `isDirectional` check a label, alone and among labels of scripts
  that run from right to left;
- `domainLabels?` are the labels of a name, if it is one.
-/

namespace NoteMarkup.Url

/-! ## Forms of names -/

/-- The form of a name that all names of the host share, unless a character must not occur. -/
def prepare? (cs : List Char) : Option (List Char) :=
  (Unicode.mapHostChars cs).map Unicode.normalize

/-- A character that no name of a host holds, whatever it stands for. -/
def isForbiddenInDomain (c : Char) : Bool :=
  c.toNat ≤ 0x20 || c.toNat == 0x7F || "%#/:<>?@[\\]^|".contains c

def isAscii (c : Char) : Bool :=
  c.toNat < 0x80

/-! ## Labels in ASCII form -/

/-- The prefix of labels that are written with ASCII characters for others. -/
def asciiFormPrefix : List Char := ['x', 'n', '-', '-']

/-- The longest label in ASCII form that is read. -/
def maxAsciiForm : Nat := 2000

/-- The longest label that is put into ASCII form. -/
def maxUnicodeForm : Nat := 1000

/-- The label that another one stands for: itself, or what it is the ASCII form of.  That must
    be a label with other characters, in the form that all names share. -/
def expandLabel? (label : List Char) : Option (List Char) :=
  if asciiFormPrefix.isPrefixOf label then
    let body := label.drop asciiFormPrefix.length
    if label.getLast? = some '-' ∨ maxAsciiForm < body.length then
      none
    else
      (Punycode.decode? body).filter fun decoded => prepare? decoded == some decoded
  else if label.all isAscii ∨ label.length ≤ maxUnicodeForm then
    some label
  else
    none

/-! ## Joiners -/

/-- The zero-width non-joiner, which keeps letters from joining. -/
def nonJoiner : Char := '\u200c'

def joiner : Char := '\u200d'

/-- How the first letter joins that is not transparent. -/
def firstJoining (cs : List Char) : Unicode.Joining :=
  match (cs.map Unicode.joining).dropWhile (· == .transparent) with
  | [] => .none
  | joining :: _ => joining

/-- The characters would join across this place; those in front stand last one first. -/
def joinsAcross (front behind : List Char) : Bool :=
  (firstJoining front == .left || firstJoining front == .dual) &&
    (firstJoining behind == .right || firstJoining behind == .dual)

/-- Every joiner stands behind a sign that silences a vowel, or is a non-joiner that keeps
    letters apart.  The characters in front of `cs` stand last one first. -/
def joinersFit (front : List Char) : List Char → Bool
  | [] => true
  | c :: cs =>
    let behindVirama := match front with
      | [] => false
      | last :: _ => Unicode.combiningClass last == Unicode.viramaClass
    ((c != nonJoiner && c != joiner) || behindVirama ||
      (c == nonJoiner && joinsAcross front cs)) && joinersFit (c :: front) cs

/-! ## Labels -/

/-- The label could stand in a name: unless it is all ASCII, it starts with no mark and its
    joiners fit. -/
def isLabel (label : List Char) : Bool :=
  label.all isAscii || (!(label.head?.any Unicode.isMark) && joinersFit [] label)

/-- A part of text that runs from right to left. -/
def runsRight : Unicode.Direction → Bool
  | .right | .arabicNumber => true
  | _ => false

/-- The directions can follow the first one of a label that runs from left to right; marks at
    the end have been dropped. -/
def endsLeft (directions : List Unicode.Direction) : Bool :=
  directions.all (!runsRight ·) &&
    (directions.getLast?.all fun last => last == .left || last == .europeanNumber)

/-- The directions can follow the first one of a label that runs from right to left; marks at
    the end have been dropped. -/
def endsRight (directions : List Unicode.Direction) : Bool :=
  directions.all (· != .left) &&
    (directions.getLast?.all fun last => runsRight last || last == .europeanNumber) &&
    !(directions.contains .arabicNumber && directions.contains .europeanNumber)

/-- The label reads the same in text that runs either way: it starts with a letter, ends with a
    letter or a digit, marks aside, and keeps to the direction of its start. -/
def isDirectional (label : List Char) : Bool :=
  match label.map Unicode.direction with
  | [] => true
  | first :: others =>
    let unmarked := (others.reverse.dropWhile (· == .mark)).reverse
    match first with
    | .left => endsLeft unmarked
    | .right => endsRight unmarked
    | _ => false

/-! ## Names -/

/-- The labels of a domain name, in the form that all names of the host share.  Labels may be
    empty, but not the whole name. -/
def domainLabels? (cs : List Char) : Option (List (List Char)) := do
  let prepared ← prepare? cs
  if prepared.isEmpty || prepared.any isForbiddenInDomain then
    none
  else
    let labels ← (splitDots prepared).mapM expandLabel?
    let isMixed := labels.any (·.any (runsRight <| Unicode.direction ·))
    if labels.all isLabel && (!isMixed || labels.all isDirectional) then some labels else none

end NoteMarkup.Url
