import NoteMarkup.Heading
import NoteMarkup.Tree.Search

/-!
# Outlines and titles

What a document says about itself in its headings.

- `Element.outline` lists the headings, to build a table of contents from;
- `Element.title?` is the title, from the first heading.

A heading inside another heading is part of that one and has no entry.
-/

namespace NoteMarkup

/-- A heading as a table of contents lists it. -/
structure OutlineEntry where
  level : Nat
  id? : Option String
  text : String
  deriving Repr, DecidableEq, Inhabited

/-- The text of a heading block: that of its editable region, without the blanks around it. -/
def Element.headingText (e : Element) : String :=
  match e.editableRegion? with
  | none => ""
  | some region => Text.trim region.textContent

def Element.outlineEntry (e : Element) : OutlineEntry :=
  ⟨e.headingLevel, e.headingId?, e.headingText⟩

/-! ## Outlines -/

mutual

/-- The headings below an element, in document order. -/
def Element.outline : Element → List OutlineEntry
  | ⟨_, _, children⟩ => outlineOf children

def outlineOf : List Node → List OutlineEntry
  | [] => []
  | node :: nodes => node.outline ++ outlineOf nodes

/-- The headings in a node: a heading block is one itself and is not searched. -/
def Node.outline : Node → List OutlineEntry
  | .element e => if e.blockKind = .heading then [e.outlineEntry] else e.outline
  | .text _ => []

end

/-! ## Titles -/

def nonEmpty? (s : String) : Option String :=
  if s.isEmpty then none else some s

/-- An element whose tag makes it the heading of a page. -/
def Element.isPageHeading (e : Element) : Bool :=
  e.tag == "h1" || e.tag == "h2" || e.tag == "h3"

/-- The title of a document: the text of its first heading block or, if there is none or it
    is empty, that of its first `h1`, `h2` or `h3`. -/
def Element.title? (root : Element) : Option String :=
  let fromBlock := (root.find? (·.blockKind = .heading)).bind (nonEmpty? ·.headingText)
  match fromBlock with
  | some title => some title
  | none => (root.find? isPageHeading).bind (nonEmpty? <| Text.trim ·.textContent)

end NoteMarkup
