import NoteMarkup.Kind

/-!
# Headings

The level of a heading block and the identifier that links to it.  Pages and
outlines both take them from here, so that they agree.
-/

namespace NoteMarkup

/-- The level of a heading that does not say which level it has. -/
def defaultHeadingLevel : Nat := 2

/-- The level that a word from `h1` to `h6` names. -/
def headingLevelOf? (token : String) : Option Nat :=
  match token.toList with
  | ['h', digit] => if '1' ≤ digit ∧ digit ≤ '6' then some (digit.toNat - '0'.toNat) else none
  | _ => none

namespace Element

/-- The level of a heading block, from its `data-subtype`, else from the first class that
    names one, else the default. -/
def headingLevel (e : Element) : Nat :=
  match (e.attr? "data-subtype").bind headingLevelOf? with
  | some level => level
  | none => (e.classTokens.findSome? headingLevelOf?).getD defaultHeadingLevel

/-- The identifier that links to a heading block: its `id`, else its `data-node-id`. -/
def headingId? (e : Element) : Option String :=
  (e.attrNonEmpty? "id").or (e.attrNonEmpty? "data-node-id")

end Element

end NoteMarkup
