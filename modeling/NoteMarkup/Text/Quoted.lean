import NoteMarkup.Unicode.Printable

/-!
# Quoted texts

A text as messages show it: in double quotes, with an escape for every
character that would not show as itself.
-/

namespace NoteMarkup.Text

/-- A character as it stands in a quoted text. -/
def quotedChar (c : Char) : List Char :=
  match c with
  | '\x00' => ['\\', '0']
  | '\t' => ['\\', 't']
  | '\n' => ['\\', 'n']
  | '\r' => ['\\', 'r']
  | '"' => ['\\', '"']
  | '\\' => ['\\', '\\']
  | c =>
    if Unicode.isPrintable c then
      [c]
    else
      ['\\', 'u', '\x7b'] ++ Nat.toDigits 16 c.toNat ++ ['\x7d']

/-- A text in double quotes. -/
def quoted (s : String) : String :=
  "\"" ++ String.ofList (s.toList.flatMap quotedChar) ++ "\""

end NoteMarkup.Text
