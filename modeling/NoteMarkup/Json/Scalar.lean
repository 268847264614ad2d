import NoteMarkup.Json.Cursor

/-!
# Reading JSON scalars

Readers for the values that have no parts.  Each starts at a cursor and returns
the place behind what it read.

- `readLiteral`, `readString` and `readNumber` read what their names say;
- `mismatchAt` is the failure for a value that is not what was asked for: it reads
  a scalar to name it, and an unreadable one is its own failure.
-/

namespace NoteMarkup.Json

/-! ## Literals -/

/-- Reads the given characters.  The first that differs belongs to the fault. -/
def readLiteral (expected : List Char) (cursor : Cursor) : Except Failure Cursor :=
  match expected, cursor.rest with
  | [], _ => .ok cursor
  | _ :: _, [] => .error ⟨.endInValue, cursor.offset⟩
  | e :: expected, c :: cs =>
    if c == e then
      readLiteral expected ⟨cursor.offset + c.utf8Size, cs⟩
    else
      .error ⟨.expectedLiteral, cursor.offset + 1⟩

/-! ## Strings -/

/-- Reads four hexadecimal digits.  The fault lies behind them, or at the end of a text that
    has no four bytes left. -/
def readHexEscape (cursor : Cursor) : Except Failure (Nat × Cursor) :=
  let left := byteCount cursor.rest
  match cursor.rest with
  | a :: b :: c :: d :: cs =>
    match Unicode.hexValue? a, Unicode.hexValue? b, Unicode.hexValue? c, Unicode.hexValue? d with
    | some a, some b, some c, some d =>
      .ok (((a * 16 + b) * 16 + c) * 16 + d, ⟨cursor.offset + 4, cs⟩)
    | _, _, _, _ => .error ⟨.invalidEscape, cursor.offset + 4⟩
  | _ =>
    if left < 4 then
      .error ⟨.endInString, cursor.offset + left⟩
    else
      .error ⟨.invalidEscape, cursor.offset + 4⟩

def isLeadingSurrogate (n : Nat) : Bool :=
  0xD800 ≤ n && n ≤ 0xDBFF

def isTrailingSurrogate (n : Nat) : Bool :=
  0xDC00 ≤ n && n ≤ 0xDFFF

def readTrailingSurrogate (leading : Nat) (cursor : Cursor) : Except Failure (Char × Cursor) :=
  match cursor.rest with
  | [] => .error ⟨.endInString, cursor.offset⟩
  | '\\' :: [] => .error ⟨.endInString, cursor.offset + 1⟩
  | '\\' :: 'u' :: cs =>
    match readHexEscape ⟨cursor.offset + 2, cs⟩ with
    | .error failure => .error failure
    | .ok (trailing, after) =>
      if isTrailingSurrogate trailing then
        .ok (Char.ofNat (0x10000 + (leading - 0xD800) * 0x400 + (trailing - 0xDC00)), after)
      else
        .error ⟨.loneSurrogate, after.offset⟩
  | '\\' :: _ => .error ⟨.unfinishedSurrogatePair, cursor.offset + 2⟩
  | _ => .error ⟨.unfinishedSurrogatePair, cursor.offset + 1⟩

/-- Reads a character given by its number, behind the `\u`. -/
def readUnicodeEscape (cursor : Cursor) : Except Failure (Char × Cursor) :=
  match readHexEscape cursor with
  | .error failure => .error failure
  | .ok (n, after) =>
    if isTrailingSurrogate n then
      .error ⟨.loneSurrogate, after.offset⟩
    else if isLeadingSurrogate n then
      readTrailingSurrogate n after
    else
      .ok (Char.ofNat n, after)

def escapedChar? : Char → Option Char
  | '"' => some '"'
  | '\\' => some '\\'
  | '/' => some '/'
  | 'b' => some '\x08'
  | 'f' => some '\x0c'
  | 'n' => some '\n'
  | 'r' => some '\r'
  | 't' => some '\t'
  | _ => none

def readEscape (cursor : Cursor) : Except Failure (Char × Cursor) :=
  match cursor.rest with
  | [] => .error ⟨.endInString, cursor.offset⟩
  | c :: cs =>
    if c == 'u' then
      readUnicodeEscape ⟨cursor.offset + 1, cs⟩
    else
      match escapedChar? c with
      | none => .error ⟨.invalidEscape, cursor.offset + 1⟩
      | some escaped => .ok (escaped, ⟨cursor.offset + 1, cs⟩)

theorem length_rest_readHexEscape {cursor after : Cursor} {n : Nat}
    (h : readHexEscape cursor = .ok (n, after)) : after.rest.length ≤ cursor.rest.length := by
  simp only [readHexEscape] at h
  split at h
  · rename_i heq
    split at h
    · simp only [Except.ok.injEq, Prod.mk.injEq] at h
      simp [heq, ← h.2]
      omega
    · simp at h
  · split at h <;> simp at h

theorem length_rest_readTrailingSurrogate {leading : Nat} {cursor after : Cursor} {c : Char}
    (h : readTrailingSurrogate leading cursor = .ok (c, after)) :
    after.rest.length ≤ cursor.rest.length := by
  simp only [readTrailingSurrogate] at h
  split at h
  · simp at h
  · simp at h
  · rename_i heq
    split at h
    · simp at h
    · rename_i hread
      have := length_rest_readHexEscape hread
      split at h
      · simp only [Except.ok.injEq, Prod.mk.injEq] at h
        simp [heq, ← h.2]
        simp at this
        omega
      · simp at h
  · simp at h
  · simp at h

theorem length_rest_readUnicodeEscape {cursor after : Cursor} {c : Char}
    (h : readUnicodeEscape cursor = .ok (c, after)) :
    after.rest.length ≤ cursor.rest.length := by
  simp only [readUnicodeEscape] at h
  split at h
  · simp at h
  · rename_i hread
    have := length_rest_readHexEscape hread
    split at h
    · simp at h
    · split at h
      · have := length_rest_readTrailingSurrogate h
        omega
      · simp only [Except.ok.injEq, Prod.mk.injEq] at h
        rw [← h.2]
        exact this

theorem length_rest_readEscape {cursor after : Cursor} {c : Char}
    (h : readEscape cursor = .ok (c, after)) : after.rest.length < cursor.rest.length := by
  simp only [readEscape] at h
  split at h
  · simp at h
  · rename_i heq
    rw [heq]
    split at h
    · have := length_rest_readUnicodeEscape h
      simp only [List.length_cons] at this ⊢
      omega
    · split at h
      · simp at h
      · simp only [Except.ok.injEq, Prod.mk.injEq] at h
        simp [← h.2]

/-- Reads a string behind its opening quote, with the characters in front of the cursor that
    belong to it in reverse order. -/
def readStringBody (reversed : List Char) (cursor : Cursor) : Except Failure (String × Cursor) :=
  match _hrest : cursor.rest with
  | [] => .error ⟨.endInString, cursor.offset⟩
  | '"' :: cs => .ok (String.ofList reversed.reverse, ⟨cursor.offset + 1, cs⟩)
  | '\\' :: cs =>
    match _hread : readEscape ⟨cursor.offset + 1, cs⟩ with
    | .error failure => .error failure
    | .ok (c, after) => readStringBody (c :: reversed) after
  | c :: cs =>
    if c.toNat < 0x20 then
      .error ⟨.controlCharacter, cursor.offset + 1⟩
    else
      readStringBody (c :: reversed) ⟨cursor.offset + c.utf8Size, cs⟩
termination_by cursor.rest.length
decreasing_by
  · have := length_rest_readEscape _hread
    simp only [_hrest, List.length_cons] at this ⊢
    omega
  · simp [_hrest]

def readString (cursor : Cursor) : Except Failure (String × Cursor) :=
  readStringBody [] cursor

/-! ## Numbers -/

def digitValue (c : Char) : Nat :=
  c.toNat - '0'.toNat

/-- Adds digits to a number as long as it fits 64 bits, and returns how many digits are left
    over then. -/
def accumulate (limit : Nat) (n : Nat) : List Char → Nat × Nat
  | [] => (n, 0)
  | c :: cs =>
    if limit < n * 10 + digitValue c then
      (n, cs.length + 1)
    else
      accumulate limit (n * 10 + digitValue c) cs

def maxExponent : Nat := 0x7FFFFFFF

/-- The digits behind the cursor and the place behind them. -/
def takeDigits (cursor : Cursor) : List Char × Cursor :=
  let digits := cursor.rest.takeWhile Char.isDigit
  (digits, ⟨cursor.offset + digits.length, cursor.rest.dropWhile Char.isDigit⟩)

/-- The floating-point number for what was read in front of the cursor. -/
def finishFloat (negative : Bool) (significand : Nat) (exponent : Int) (cursor : Cursor) :
    Except Failure (Number × Cursor) :=
  match Number.ofParts negative significand exponent with
  | none => .error ⟨.numberOutOfRange, cursor.offset⟩
  | some number => .ok (number, cursor)

/-- Reads the digits of an exponent, and finishes the number.  An exponent too large to be
    read makes the number too large, or zero. -/
def readExponentDigits (negative : Bool) (significand : Nat) (exponent : Int)
    (downwards : Bool) (cursor : Cursor) : Except Failure (Number × Cursor) :=
  match cursor.rest with
  | [] => .error ⟨.endInValue, cursor.offset⟩
  | c :: _ =>
    if !c.isDigit then
      .error ⟨.invalidNumber, cursor.offset + 1⟩
    else
      let (digits, after) := takeDigits cursor
      let (magnitude, left) := accumulate maxExponent 0 digits
      if left = 0 then
        let shift : Int := if downwards then -magnitude else magnitude
        finishFloat negative significand (exponent + shift) after
      else if significand ≠ 0 ∧ !downwards then
        .error ⟨.numberOutOfRange, cursor.offset + (digits.length - left) + 1⟩
      else
        finishFloat negative 0 0 after

/-- Reads an exponent behind its letter, and finishes the number. -/
def readExponent (negative : Bool) (significand : Nat) (exponent : Int) (cursor : Cursor) :
    Except Failure (Number × Cursor) :=
  match cursor.rest with
  | '+' :: cs => readExponentDigits negative significand exponent false ⟨cursor.offset + 1, cs⟩
  | '-' :: cs => readExponentDigits negative significand exponent true ⟨cursor.offset + 1, cs⟩
  | _ => readExponentDigits negative significand exponent false cursor

/-- Finishes a floating-point number, with an exponent if one follows. -/
def readScale (negative : Bool) (significand : Nat) (exponent : Int) (cursor : Cursor) :
    Except Failure (Number × Cursor) :=
  match cursor.rest with
  | c :: cs =>
    if c == 'e' || c == 'E' then
      readExponent negative significand exponent ⟨cursor.offset + 1, cs⟩
    else
      finishFloat negative significand exponent cursor
  | [] => finishFloat negative significand exponent cursor

/-- Reads the digits behind the point of a number, and finishes the number. -/
def readFraction (negative : Bool) (significand : Nat) (exponent : Int) (cursor : Cursor) :
    Except Failure (Number × Cursor) :=
  let (digits, after) := takeDigits cursor
  if digits.isEmpty then
    .error ⟨if cursor.rest.isEmpty then .endInValue else .invalidNumber, cursor.ahead⟩
  else
    let (significand, left) := accumulate maxInteger significand digits
    let used : Nat := digits.length - left
    readScale negative significand (exponent - (used : Int)) after

/-- Finishes a number behind the digits of its integer part, of which `left` did not fit 64
    bits. -/
def readAfterInteger (negative : Bool) (significand left : Nat) (cursor : Cursor) :
    Except Failure (Number × Cursor) :=
  match cursor.rest with
  | '.' :: cs => readFraction negative significand left ⟨cursor.offset + 1, cs⟩
  | 'e' :: _ | 'E' :: _ => readScale negative significand left cursor
  | _ =>
    if left = 0 then
      .ok (.ofInteger negative significand, cursor)
    else
      finishFloat negative significand left cursor

/-- Reads a number behind its sign. -/
def readNumber (negative : Bool) (cursor : Cursor) : Except Failure (Number × Cursor) :=
  match cursor.rest with
  | [] => .error ⟨.endInValue, cursor.offset⟩
  | '0' :: cs =>
    let after : Cursor := ⟨cursor.offset + 1, cs⟩
    match cs with
    | c :: _ =>
      if c.isDigit then .error ⟨.invalidNumber, after.ahead⟩
      else readAfterInteger negative 0 0 after
    | [] => readAfterInteger negative 0 0 after
  | c :: _ =>
    if c.isDigit then
      let (digits, after) := takeDigits cursor
      let (significand, left) := accumulate maxInteger 0 digits
      readAfterInteger negative significand left after
    else
      .error ⟨.invalidNumber, cursor.offset + 1⟩

/-! ## Values that were not asked for -/

/-- The mismatch for what was found, at the place behind it. -/
def mismatchOf (expected : String) (found : Found) (cursor : Cursor) : Failure :=
  ⟨.mismatch (.invalidType found expected), cursor.offset⟩

/-- The failure for a literal that was read instead of something else. -/
def literalMismatch (expected : String) (found : Found) : Except Failure Cursor → Failure
  | .error failure => failure
  | .ok after => mismatchOf expected found after

/-- The failure for what was read instead of something else. -/
def mismatchWith {α : Type} (expected : String) (name : α → Found) :
    Except Failure (α × Cursor) → Failure
  | .error failure => failure
  | .ok (a, after) => mismatchOf expected (name a) after

/-- The failure for a value behind the cursor that is not what was expected. -/
def mismatchAt (expected : String) (cursor : Cursor) : Failure :=
  match cursor.rest with
  | [] => ⟨.endInValue, cursor.offset⟩
  | c :: cs =>
    let after : Cursor := ⟨cursor.offset + 1, cs⟩
    match c with
    | 'n' => literalMismatch expected .null (readLiteral ['u', 'l', 'l'] after)
    | 't' => literalMismatch expected (.bool true) (readLiteral ['r', 'u', 'e'] after)
    | 'f' => literalMismatch expected (.bool false) (readLiteral ['a', 'l', 's', 'e'] after)
    | '"' => mismatchWith expected .string (readString after)
    | '-' => mismatchWith expected .number (readNumber true after)
    | '[' => mismatchOf expected .sequence cursor
    | '\x7b' => mismatchOf expected .map cursor
    | _ =>
      if c.isDigit then
        mismatchWith expected .number (readNumber false cursor)
      else
        ⟨.expectedValue, cursor.ahead⟩

end NoteMarkup.Json
