import NoteMarkup.Text.Blank

/-!
# Markup trees

A document is a tree of elements and texts.  The same trees describe the stored
notes that are read and the pages that are written.

- `Node` is an element or a text, `Element` a tag with attributes and children;
- `Element.attr?` and its relatives look up attributes;
- `Element.classTokens` are the words of the `class` attribute.

A tree need not be one that a reader builds: tags may be in upper case,
attribute names may repeat, and void elements may have children.
-/

namespace NoteMarkup

mutual

/-- A piece of content: an element, or character data with entities already read. -/
inductive Node where
  | element (e : Element)
  | text (s : String)
  deriving Repr, BEq, Inhabited

/-- A tag with its attributes and its children, both in source order. -/
structure Element where
  tag : String
  attributes : List (String × String) := []
  children : List Node := []
  deriving Repr, BEq, Inhabited

end

/-- The tag of the element that holds a whole document. -/
def rootTag : String := "#root"

/-- The elements that never have content or a closing tag. -/
def voidTags : List String :=
  ["area", "base", "br", "col", "embed", "hr", "img", "input", "link", "meta", "param",
    "source", "track", "wbr"]

/-- Elements with this tag never have content or a closing tag. -/
def isVoidTag (tag : String) : Bool :=
  voidTags.contains tag

namespace Node

def element? : Node → Option Element
  | element e => some e
  | text _ => none

/-- A text as content: an empty text is no node. -/
def ofText (s : String) : List Node :=
  if s.isEmpty then [] else [text s]

end Node

namespace Element

/-! ## Attributes -/

def attr? (e : Element) (name : String) : Option String :=
  e.attributes.lookup name

/-- The value of the first attribute with this name, or the empty text. -/
def attrD (e : Element) (name : String) : String :=
  (e.attr? name).getD ""

/-- The value of an attribute, where an empty value counts as missing. -/
def attrNonEmpty? (e : Element) (name : String) : Option String :=
  (e.attr? name).filter (!·.isEmpty)

def classTokens (e : Element) : List String :=
  Text.words (e.attrD "class")

def hasClass (e : Element) (token : String) : Bool :=
  e.classTokens.contains token

/-- The type that the note system gives to the element. -/
def dataType? (e : Element) : Option String :=
  e.attr? "data-type"

/-! ## Children -/

def childElements (e : Element) : List Element :=
  e.children.filterMap Node.element?

end Element

end NoteMarkup
