import NoteMarkup.Tree
import NoteMarkup.Text.Entity

/-!
# Writing trees as markup

The one place where trees become text.  Names are written as they are, texts
and attribute values are escaped, attribute values stand in double quotes, and
a void element is written without content and without a closing tag.

- `Element.print` and `printNodes` write an element and a list of nodes;
- `Element.without` removes the descendants with a given tag.
-/

namespace NoteMarkup

/-! ## Printing -/

/-- An attribute as it stands in a tag, with the blank in front of it. -/
def printAttribute : String × String → String
  | (name, value) => " " ++ name ++ "=\"" ++ Text.escape value ++ "\""

def printAttributes (attributes : List (String × String)) : String :=
  String.join (attributes.map printAttribute)

mutual

/-- The markup of an element and everything below it. -/
def Element.print : Element → String
  | ⟨tag, attributes, children⟩ =>
    let opening := "<" ++ tag ++ printAttributes attributes ++ ">"
    if isVoidTag tag then opening else opening ++ printNodes children ++ "</" ++ tag ++ ">"

/-- The markup of a list of nodes, one after the other. -/
def printNodes : List Node → String
  | [] => ""
  | node :: nodes => node.print ++ printNodes nodes

def Node.print : Node → String
  | .element e => e.print
  | .text s => Text.escape s

end

/-! ## Removing elements -/

mutual

def Element.without (tag : String) : Element → Element
  | ⟨own, attributes, children⟩ => ⟨own, attributes, withoutIn tag children⟩

/-- The nodes without the elements that have this tag, at any depth. -/
def withoutIn (tag : String) : List Node → List Node
  | [] => []
  | node :: nodes => node.without tag ++ withoutIn tag nodes

/-- A node without the elements that have this tag: nothing, if it is one itself. -/
def Node.without (tag : String) : Node → List Node
  | .element e => if e.tag == tag then [] else [.element (e.without tag)]
  | .text s => [.text s]

end

end NoteMarkup
