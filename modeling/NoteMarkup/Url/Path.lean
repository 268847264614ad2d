import NoteMarkup.Url.Percent

/-!
# Paths of URLs

- `segments` are the parts of a path between slashes, encoded;
- `place` puts a segment into a path: `.` stays where it is, `..` goes up;
- `normalPath` is the path that is left.

A segment that looks like a drive letter is never gone up from.
-/

namespace NoteMarkup.Url

def isSlash (c : Char) : Bool :=
  c == '/' || c == '\\'

def isReservedInPath (c : Char) : Bool :=
  Percent.isAlwaysReserved c || " \"#<>?`\x7b\x7d".contains c

/-! ## Segments -/

/-- The parts of a text between slashes; there is always at least one. -/
def splitSlashes : List Char → List (List Char)
  | [] => [[]]
  | c :: cs =>
    if isSlash c then
      [] :: splitSlashes cs
    else
      match splitSlashes cs with
      | [] => [[c]]
      | segment :: segments => (c :: segment) :: segments

/-- The encoded segments of a path, which may start with a slash. -/
def segments (cs : List Char) : List (List Char) :=
  let behindSlash := match cs with
    | c :: rest => if isSlash c then rest else c :: rest
    | [] => []
  (splitSlashes behindSlash).map (Percent.encode isReservedInPath)

/-- A dot, written plainly or encoded, in front of a segment. -/
def dropDot? : List Char → Option (List Char)
  | '.' :: cs => some cs
  | '%' :: '2' :: e :: cs => if e == 'e' || e == 'E' then some cs else none
  | _ => none

/-- The segment for the place where it stands. -/
def isSingleDot (segment : List Char) : Bool :=
  dropDot? segment == some []

/-- The segment for the place above. -/
def isDoubleDot (segment : List Char) : Bool :=
  (dropDot? segment).bind dropDot? == some []

/-- A letter and a colon or a bar, as drives are written. -/
def isDriveLetter : List Char → Bool
  | [letter, mark] => letter.isAlpha && (mark == ':' || mark == '|')
  | _ => false

/-! ## Paths -/

/-- The segments, last one first, after going up. -/
def goUp : List (List Char) → List (List Char)
  | [] => []
  | segment :: above => if isDriveLetter segment then segment :: above else above

/-- Puts a segment behind those of a path, which stand last one first. -/
def place (path : List (List Char)) (segment : List Char) : List (List Char) :=
  if isDoubleDot segment then goUp path
  else if isSingleDot segment then path
  else segment :: path

/-- Puts all segments behind those of a path.  One that goes nowhere at the end leaves an empty
    segment there. -/
def placeAll (path : List (List Char)) : List (List Char) → List (List Char)
  | [] => path
  | [last] =>
    if isDoubleDot last || isSingleDot last then [] :: place path last else place path last
  | segment :: segments => placeAll (place path segment) segments

def joinSegments : List (List Char) → List Char
  | [] => ['/']
  | segment :: segments => '/' :: segment ++ segments.flatMap ('/' :: ·)

/-- The path that is left of a path in a URL. -/
def normalPath (cs : List Char) : List Char :=
  joinSegments (placeAll [] (segments cs)).reverse

theorem normalPath_eq_cons (cs : List Char) : ∃ rest, normalPath cs = '/' :: rest := by
  unfold normalPath
  cases (placeAll [] (segments cs)).reverse with
  | nil => exact ⟨[], rfl⟩
  | cons segment segments => exact ⟨segment ++ segments.flatMap ('/' :: ·), rfl⟩

end NoteMarkup.Url
