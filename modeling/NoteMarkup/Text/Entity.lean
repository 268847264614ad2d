/-!
# Entities

Five characters have a meaning of their own in markup, and each has one entity
that stands for the plain character: `&amp;`, `&lt;`, `&gt;`, `&quot;`, `&#39;`.

- `escape` writes those characters as entities;
- `unescape` reads entities back, in one pass from left to right, and leaves
  every other `&` alone.

No other entity is known, so unescaping undoes escaping and never reads the
same character twice: `&amp;lt;` stands for `&lt;` and not for `<`.
-/

namespace NoteMarkup.Text

/-- What stands for a character in escaped text. -/
def escapeChar : Char → List Char
  | '&' => ['&', 'a', 'm', 'p', ';']
  | '<' => ['&', 'l', 't', ';']
  | '>' => ['&', 'g', 't', ';']
  | '"' => ['&', 'q', 'u', 'o', 't', ';']
  | '\'' => ['&', '#', '3', '9', ';']
  | c => [c]

def escapeChars (cs : List Char) : List Char :=
  cs.flatMap escapeChar

/-- Writes the five special characters as entities, for element content and for
    attribute values in double quotes. -/
def escape (s : String) : String :=
  String.ofList (escapeChars s.toList)

def unescapeChars : List Char → List Char
  | '&' :: 'a' :: 'm' :: 'p' :: ';' :: cs => '&' :: unescapeChars cs
  | '&' :: 'l' :: 't' :: ';' :: cs => '<' :: unescapeChars cs
  | '&' :: 'g' :: 't' :: ';' :: cs => '>' :: unescapeChars cs
  | '&' :: 'q' :: 'u' :: 'o' :: 't' :: ';' :: cs => '"' :: unescapeChars cs
  | '&' :: '#' :: '3' :: '9' :: ';' :: cs => '\'' :: unescapeChars cs
  | c :: cs => c :: unescapeChars cs
  | [] => []

/-- Reads the five entities as the characters they stand for. -/
def unescape (s : String) : String :=
  String.ofList (unescapeChars s.toList)

@[simp]
theorem escapeChars_append (xs ys : List Char) :
    escapeChars (xs ++ ys) = escapeChars xs ++ escapeChars ys :=
  List.flatMap_append

end NoteMarkup.Text
