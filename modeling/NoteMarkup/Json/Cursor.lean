import NoteMarkup.Json.Value

/-!
# Places in a JSON text

- `Cursor` is a place in a text, with the characters that follow;
- `Fault` says what is wrong there, `Fault.message` words it;
- `Failure` is a fault and its place, which `Failure.message` gives as a line and
  a column.

Places count bytes, so a fault can lie inside a character.
-/

namespace NoteMarkup.Json

/-! ## Cursors -/

/-- A place in a text: how many bytes are in front of it, and the characters behind it. -/
structure Cursor where
  offset : Nat
  rest : List Char
  deriving Repr, DecidableEq, Inhabited

def Cursor.start (text : String) : Cursor :=
  ⟨0, text.toList⟩

/-- The byte behind the cursor, where a fault lies that looks ahead.  At the end of the text
    that is the end. -/
def Cursor.ahead (cursor : Cursor) : Nat :=
  if cursor.rest.isEmpty then cursor.offset else cursor.offset + 1

/-- The characters that may stand between the parts of a JSON text. -/
def isJsonBlank (c : Char) : Bool :=
  c == ' ' || c == '\n' || c == '\t' || c == '\r'

/-- The next place that no blank follows. -/
def Cursor.skipBlanks (cursor : Cursor) : Cursor :=
  let blanks := cursor.rest.takeWhile isJsonBlank
  ⟨cursor.offset + blanks.length, cursor.rest.dropWhile isJsonBlank⟩

def byteCount : List Char → Nat
  | [] => 0
  | c :: cs => c.utf8Size + byteCount cs

/-! ## Faults -/

/-- What can be wrong with a JSON text. -/
inductive Fault where
  | endInList
  | endInObject
  | endInString
  | endInValue
  | expectedColon
  | expectedListCommaOrEnd
  | expectedObjectCommaOrEnd
  | expectedLiteral
  | expectedValue
  | invalidEscape
  | invalidNumber
  | numberOutOfRange
  | controlCharacter
  | keyNotString
  | loneSurrogate
  | unfinishedSurrogatePair
  | trailingComma
  | trailingCharacters
  | mismatch (m : Mismatch)
  deriving Repr, Inhabited

def Fault.message : Fault → String
  | endInList => "EOF while parsing a list"
  | endInObject => "EOF while parsing an object"
  | endInString => "EOF while parsing a string"
  | endInValue => "EOF while parsing a value"
  | expectedColon => "expected `:`"
  | expectedListCommaOrEnd => "expected `,` or `]`"
  | expectedObjectCommaOrEnd => "expected `,` or `\x7d`"
  | expectedLiteral => "expected ident"
  | expectedValue => "expected value"
  | invalidEscape => "invalid escape"
  | invalidNumber => "invalid number"
  | numberOutOfRange => "number out of range"
  | controlCharacter => "control character (\\u0000-\\u001F) found while parsing a string"
  | keyNotString => "key must be a string"
  | loneSurrogate => "lone leading surrogate in hex escape"
  | unfinishedSurrogatePair => "unexpected end of hex escape"
  | trailingComma => "trailing comma"
  | trailingCharacters => "trailing characters"
  | mismatch m => m.message

/-- A fault and how many bytes are in front of it. -/
structure Failure where
  fault : Fault
  offset : Nat
  deriving Repr, Inhabited

/-- The line of a place, from 1, and the number of bytes in front of it on that line. -/
def lineAndColumn (offset : Nat) (line column : Nat) : List Char → Nat × Nat
  | [] => (line, column + offset)
  | c :: cs =>
    if offset < c.utf8Size then
      (line, column + offset)
    else if c == '\n' then
      lineAndColumn (offset - c.utf8Size) (line + 1) 0 cs
    else
      lineAndColumn (offset - c.utf8Size) line (column + c.utf8Size) cs

/-- The text of a failure in a text. -/
def Failure.message (failure : Failure) (text : String) : String :=
  let (line, column) := lineAndColumn failure.offset 1 0 text.toList
  failure.fault.message ++ " at line " ++ toString line ++ " column " ++ toString column

end NoteMarkup.Json
