import NoteMarkup.Tree.Search

/-!
# Summaries

A document as one line of plain text, cut to a length.

- `Element.plainText` is the character data with blanks around blocks;
- `Element.summaryText` is that text with single spaces between words;
- `Element.summary` cuts it to a number of characters.
-/

namespace NoteMarkup

/-- The tags whose elements stand on their own lines or in their own cells, so that words
    never run across them. -/
def separatingTags : List String :=
  ["div", "p", "li", "br", "tr", "td", "th", "h1", "h2", "h3", "h4", "h5", "h6", "pre",
    "blockquote"]

/-- Words never run across the start or the end of the element. -/
def Element.isSeparating (e : Element) : Bool :=
  separatingTags.contains e.tag

mutual

/-- The character data below an element, with spaces around those that separate words. -/
def Element.plainText : Element → String
  | ⟨_, _, children⟩ => plainTextOf children

def plainTextOf : List Node → String
  | [] => ""
  | node :: nodes => node.plainText ++ plainTextOf nodes

def Node.plainText : Node → String
  | .text s => s
  | .element e => if e.isSeparating then " " ++ e.plainText ++ " " else e.plainText

end

/-- The words of a document with single spaces between them. -/
def Element.summaryText (root : Element) : String :=
  " ".intercalate (Text.words root.plainText)

/-- The words of a document, cut to `limit` characters and three dots when there are more. -/
def Element.summary (limit : Nat) (root : Element) : String :=
  let full := root.summaryText
  if full.length ≤ limit then full else String.ofList (full.toList.take limit) ++ "..."

end NoteMarkup
