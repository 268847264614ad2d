import NoteMarkup.Json.Scalar
import NoteMarkup.Options

/-!
# Options as JSON

Options are written as an object that names what differs from the defaults, or
as an array of the values in order.

- `Draft` holds the values that have been read so far;
- `Options.ofJson` reads a text, which must hold the options and nothing else;
- `Options.invalidMessage` words what is wrong with a text.

What is wrong first in the text is reported, be it the form of the text or a
value that does not fit.
-/

namespace NoteMarkup

open Json

/-- What a text of options is expected to hold. -/
def optionsDescription : String := "struct Options"

def optionNames : List String := ["image_proxy_prefix", "rewrite_images"]

/-! ## Single values -/

/-- The next place behind blanks where a value starts; the text must not end there. -/
def readValueStart (cursor : Cursor) : Except Failure Cursor :=
  let cursor := cursor.skipBlanks
  if cursor.rest.isEmpty then .error ⟨.endInValue, cursor.offset⟩ else .ok cursor

def readTextValue (cursor : Cursor) : Except Failure (String × Cursor) := do
  let cursor ← readValueStart cursor
  match cursor.rest with
  | '"' :: cs => readString ⟨cursor.offset + 1, cs⟩
  | _ => .error (mismatchAt "a string" cursor)

def readFlag (cursor : Cursor) : Except Failure (Bool × Cursor) := do
  let cursor ← readValueStart cursor
  match cursor.rest with
  | 't' :: cs =>
    let after ← readLiteral ['r', 'u', 'e'] ⟨cursor.offset + 1, cs⟩
    return (true, after)
  | 'f' :: cs =>
    let after ← readLiteral ['a', 'l', 's', 'e'] ⟨cursor.offset + 1, cs⟩
    return (false, after)
  | _ => .error (mismatchAt "a boolean" cursor)

/-! ## Drafts -/

/-- The options that have been read so far. -/
structure Draft where
  imagePrefix? : Option String := none
  moveImages? : Option Bool := none

/-- The options, with defaults for those that were not read. -/
def Draft.finish (draft : Draft) : Options :=
  ⟨draft.imagePrefix?.getD defaultImagePrefix, draft.moveImages?.getD true⟩

/-- How many options have not been read. -/
def Draft.missing (draft : Draft) : Nat :=
  (if draft.imagePrefix?.isNone then 1 else 0) + (if draft.moveImages?.isNone then 1 else 0)

/-! ## Objects -/

/-- Reads the colon between the name and the value of a member. -/
def readColon (cursor : Cursor) : Except Failure Cursor :=
  let cursor := cursor.skipBlanks
  match cursor.rest with
  | [] => .error ⟨.endInObject, cursor.offset⟩
  | ':' :: cs => .ok ⟨cursor.offset + 1, cs⟩
  | _ => .error ⟨.expectedColon, cursor.ahead⟩

/-- Looks for another member of an object and returns the place behind the quote of its name,
    or `none` in front of the end of the object. -/
def readMemberStart (isFirst : Bool) (cursor : Cursor) : Except Failure (Option Cursor) :=
  let cursor := cursor.skipBlanks
  match cursor.rest with
  | [] => .error ⟨.endInObject, cursor.offset⟩
  | '\x7d' :: _ => .ok none
  | c :: cs =>
    if isFirst then
      if c == '"' then .ok (some ⟨cursor.offset + 1, cs⟩)
      else .error ⟨.keyNotString, cursor.ahead⟩
    else if c == ',' then
      let cursor := Cursor.skipBlanks ⟨cursor.offset + 1, cs⟩
      match cursor.rest with
      | '"' :: cs => .ok (some ⟨cursor.offset + 1, cs⟩)
      | '\x7d' :: _ => .error ⟨.trailingComma, cursor.ahead⟩
      | [] => .error ⟨.endInValue, cursor.offset⟩
      | _ => .error ⟨.keyNotString, cursor.ahead⟩
    else
      .error ⟨.expectedObjectCommaOrEnd, cursor.ahead⟩

/-- A name that does not fit is reported behind the blanks that follow it, and behind the end
    of the object if that follows. -/
def nameFailure (m : Mismatch) (cursor : Cursor) : Failure :=
  let cursor := cursor.skipBlanks
  match cursor.rest with
  | '\x7d' :: _ => ⟨.mismatch m, cursor.offset + 1⟩
  | _ => ⟨.mismatch m, cursor.offset⟩

/-- Reads the members of an object up to its end.  Every member fills an option that was
    missing, or is at fault. -/
def readMembers (draft : Draft) (isFirst : Bool) (cursor : Cursor) :
    Except Failure (Draft × Cursor) := do
  match ← readMemberStart isFirst cursor with
  | none => return (draft, cursor.skipBlanks)
  | some cursor =>
    let (name, cursor) ← readString cursor
    if name = "image_proxy_prefix" then
      if _h : draft.imagePrefix?.isNone then
        let cursor ← readColon cursor
        let (path, cursor) ← readTextValue cursor
        readMembers ⟨some path, draft.moveImages?⟩ false cursor
      else
        .error (nameFailure (.duplicateField name) cursor)
    else if name = "rewrite_images" then
      if _h : draft.moveImages?.isNone then
        let cursor ← readColon cursor
        let (flag, cursor) ← readFlag cursor
        readMembers ⟨draft.imagePrefix?, some flag⟩ false cursor
      else
        .error (nameFailure (.duplicateField name) cursor)
    else
      .error (nameFailure (.unknownField name optionNames) cursor)
termination_by draft.missing
decreasing_by
  · simp_all [Draft.missing]
  · simp_all [Draft.missing]

def readObjectEnd (cursor : Cursor) : Except Failure Cursor :=
  let cursor := cursor.skipBlanks
  match cursor.rest with
  | [] => .error ⟨.endInObject, cursor.offset⟩
  | '\x7d' :: cs => .ok ⟨cursor.offset + 1, cs⟩
  | ',' :: _ => .error ⟨.trailingComma, cursor.ahead⟩
  | _ => .error ⟨.trailingCharacters, cursor.ahead⟩

/-! ## Arrays -/

/-- Looks for another item of an array and returns the place in front of it, or `none` in front
    of the end of the array. -/
def readItemStart (isFirst : Bool) (cursor : Cursor) : Except Failure (Option Cursor) :=
  let cursor := cursor.skipBlanks
  match cursor.rest with
  | [] => .error ⟨.endInList, cursor.offset⟩
  | ']' :: _ => .ok none
  | c :: cs =>
    if isFirst then
      .ok (some cursor)
    else if c == ',' then
      let cursor := Cursor.skipBlanks ⟨cursor.offset + 1, cs⟩
      match cursor.rest with
      | ']' :: _ => .error ⟨.trailingComma, cursor.ahead⟩
      | [] => .error ⟨.endInValue, cursor.offset⟩
      | _ => .ok (some cursor)
    else
      .error ⟨.expectedListCommaOrEnd, cursor.ahead⟩

/-- Reads the options as the items of an array, of which the last may be missing. -/
def readItems (cursor : Cursor) : Except Failure (Draft × Cursor) := do
  match ← readItemStart true cursor with
  | none => return (⟨none, none⟩, cursor)
  | some cursor =>
    let (path, cursor) ← readTextValue cursor
    match ← readItemStart false cursor with
    | none => return (⟨some path, none⟩, cursor)
    | some cursor =>
      let (flag, cursor) ← readFlag cursor
      return (⟨some path, some flag⟩, cursor)

def readArrayEnd (cursor : Cursor) : Except Failure Cursor :=
  let cursor := cursor.skipBlanks
  match cursor.rest with
  | [] => .error ⟨.endInList, cursor.offset⟩
  | ']' :: cs => .ok ⟨cursor.offset + 1, cs⟩
  | ',' :: cs =>
    let cursor := Cursor.skipBlanks ⟨cursor.offset + 1, cs⟩
    match cursor.rest with
    | ']' :: _ => .error ⟨.trailingComma, cursor.ahead⟩
    | _ => .error ⟨.trailingCharacters, cursor.ahead⟩
  | _ => .error ⟨.trailingCharacters, cursor.ahead⟩

/-! ## Whole texts -/

def readOptions (cursor : Cursor) : Except Failure (Options × Cursor) := do
  let cursor ← readValueStart cursor
  match cursor.rest with
  | '\x7b' :: cs =>
    let (draft, cursor) ← readMembers ⟨none, none⟩ true ⟨cursor.offset + 1, cs⟩
    let cursor ← readObjectEnd cursor
    return (draft.finish, cursor)
  | '[' :: cs =>
    let (draft, cursor) ← readItems ⟨cursor.offset + 1, cs⟩
    let cursor ← readArrayEnd cursor
    return (draft.finish, cursor)
  | _ => .error (mismatchAt optionsDescription cursor)

namespace Options

/-- The options that a JSON text holds. -/
def ofJson (text : String) : Except Failure Options := do
  let (options, cursor) ← readOptions (.start text)
  let cursor := cursor.skipBlanks
  if cursor.rest.isEmpty then
    return options
  else
    .error ⟨.trailingCharacters, cursor.ahead⟩

/-- The text for what is wrong with a JSON text of options. -/
def invalidMessage (text : String) (failure : Failure) : String :=
  "invalid config: " ++ failure.message text

end Options

end NoteMarkup
