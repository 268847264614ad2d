import NoteMarkup.Json.Value

/-!
# Writing JSON

Values are written over several lines, each level two spaces further in, with
the members of objects in their order.

- `Value.pretty` is the text of a value;
- `quote` is the text of a string: quotes, backslashes and control characters are
  escaped, all else stands for itself.
-/

namespace NoteMarkup.Json

/-! ## Strings -/

def hexDigit (n : Nat) : Char :=
  Nat.digitChar (n % 16)

/-- A character as it stands in a JSON string. -/
def quoteChar (c : Char) : List Char :=
  match c with
  | '"' => ['\\', '"']
  | '\\' => ['\\', '\\']
  | '\n' => ['\\', 'n']
  | '\r' => ['\\', 'r']
  | '\t' => ['\\', 't']
  | '\x08' => ['\\', 'b']
  | '\x0c' => ['\\', 'f']
  | c =>
    if c.toNat < 0x20 then
      ['\\', 'u', '0', '0', hexDigit (c.toNat / 16), hexDigit c.toNat]
    else
      [c]

def quote (s : String) : String :=
  "\"" ++ String.ofList (s.toList.flatMap quoteChar) ++ "\""

/-! ## Values -/

def newLine (level : Nat) : String :=
  "\n" ++ String.ofList (List.replicate (2 * level) ' ')

mutual

def Value.prettyAt (level : Nat) : Value → String
  | .null => "null"
  | .bool b => toString b
  | .number n => n.text
  | .string s => quote s
  | .array [] => "[]"
  | .array (item :: items) =>
    "[" ++ newLine (level + 1) ++ item.prettyAt (level + 1) ++ prettyItems (level + 1) items ++
      newLine level ++ "]"
  | .object [] => "\x7b\x7d"
  | .object ((name, value) :: members) =>
    "\x7b" ++ newLine (level + 1) ++ quote name ++ ": " ++ value.prettyAt (level + 1) ++
      prettyMembers (level + 1) members ++ newLine level ++ "\x7d"

def prettyItems (level : Nat) : List Value → String
  | [] => ""
  | item :: items => "," ++ newLine level ++ item.prettyAt level ++ prettyItems level items

def prettyMembers (level : Nat) : List (String × Value) → String
  | [] => ""
  | (name, value) :: members =>
    "," ++ newLine level ++ quote name ++ ": " ++ value.prettyAt level ++
      prettyMembers level members

end

/-- The text of a value over several lines. -/
def Value.pretty (value : Value) : String :=
  value.prettyAt 0

end NoteMarkup.Json
