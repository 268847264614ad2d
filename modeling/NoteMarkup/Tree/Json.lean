import NoteMarkup.Json.Value
import NoteMarkup.Outline
import NoteMarkup.Tree

/-!
# Trees and outlines as JSON

An element is an object with its tag, its attributes as pairs and its children;
a node is an object with one member that says what it is.

- `Element.toJson` and `OutlineEntry.toJson` are the values that are written;
- `Element.ofJson` reads an element back.  It also accepts an array of the three
  parts, ignores members it does not know, and looks at members in the order of
  their names.
-/

namespace NoteMarkup

open Json

/-! ## Writing -/

def attributesToJson (attributes : List (String × String)) : Value :=
  .array (attributes.map fun (name, value) => .array [.string name, .string value])

mutual

def Element.toJson : Element → Value
  | ⟨tag, attributes, children⟩ =>
    .object [("tag", .string tag), ("attributes", attributesToJson attributes),
      ("children", .array (nodesToJson children))]

def nodesToJson : List Node → List Value
  | [] => []
  | node :: nodes => node.toJson :: nodesToJson nodes

def Node.toJson : Node → Value
  | .element e => .object [("Element", e.toJson)]
  | .text s => .object [("Text", .string s)]

end

def OutlineEntry.toJson (entry : OutlineEntry) : Value :=
  .object [("level", .number (.integer entry.level)),
    ("id", match entry.id? with | none => .null | some id => .string id),
    ("text", .string entry.text)]

/-! ## Reading -/

/-- What a value is expected to be where an element is read. -/
def elementDescription : String := "struct Element"

/-- What nodes can be. -/
def nodeVariants : List String := ["Element", "Text"]

def readStringValue : Value → Except Mismatch String
  | .string s => .ok s
  | value => .error (.invalidType value.found "a string")

def attributeOfJson : Value → Except Mismatch (String × String)
  | .array items =>
    let expected := "a tuple of size 2"
    match items with
    | [] => .error (.invalidLength 0 expected)
    | [name] => do
      let _ ← readStringValue name
      .error (.invalidLength 1 expected)
    | name :: value :: more => do
      let name ← readStringValue name
      let value ← readStringValue value
      if more.isEmpty then
        return (name, value)
      else
        .error (.invalidLength (more.length + 2) "fewer elements in array")
  | value => .error (.invalidType value.found "a tuple of size 2")

def attributesOfJson : Value → Except Mismatch (List (String × String))
  | .array items => items.mapM attributeOfJson
  | value => .error (.invalidType value.found "a sequence")

/-- A member that must be there. -/
def required {α : Type} (name : String) : Option α → Except Mismatch α
  | some a => .ok a
  | none => .error (.missingField name)

mutual

def Element.ofJson : Value → Except Mismatch Element
  | .object members => do
    let (attributes?, children?, tag?) ← elementMembers members
    let tag ← required "tag" tag?
    let attributes ← required "attributes" attributes?
    let children ← required "children" children?
    return ⟨tag, attributes, children⟩
  | .array items =>
    let expected := elementDescription ++ " with 3 elements"
    match items with
    | [] => .error (.invalidLength 0 expected)
    | [tag] => do
      let _ ← readStringValue tag
      .error (.invalidLength 1 expected)
    | [tag, attributes] => do
      let _ ← readStringValue tag
      let _ ← attributesOfJson attributes
      .error (.invalidLength 2 expected)
    | tag :: attributes :: children :: more => do
      let tag ← readStringValue tag
      let attributes ← attributesOfJson attributes
      let children ← childrenOfJson children
      if more.isEmpty then
        return ⟨tag, attributes, children⟩
      else
        .error (.invalidLength (more.length + 3) "fewer elements in array")
  | value => .error (.invalidType value.found elementDescription)

def childrenOfJson : Value → Except Mismatch (List Node)
  | .array items => nodesOfJson items
  | value => .error (.invalidType value.found "a sequence")

def nodesOfJson : List Value → Except Mismatch (List Node)
  | [] => .ok []
  | item :: items => do
    let node ← Node.ofJson item
    let nodes ← nodesOfJson items
    return node :: nodes

/-- Reads a node, an object whose only member says what it is. -/
def Node.ofJson : Value → Except Mismatch Node
  | .object [(name, value)] =>
    match name with
    | "Element" => return .element (← Element.ofJson value)
    | "Text" => return .text (← readStringValue value)
    | _ => .error (.unknownVariant name nodeVariants)
  | .object _ => .error (.invalidValue .map "map with a single key")
  | .string name =>
    if nodeVariants.contains name then
      .error (.invalidType .unitVariant "newtype variant")
    else
      .error (.unknownVariant name nodeVariants)
  | value => .error (.invalidType value.found "string or map")

/-- Reads the members of an element, which stand in the order of their names. -/
def elementMembers : List (String × Value) →
    Except Mismatch (Option (List (String × String)) × Option (List Node) × Option String)
  | [] => .ok (none, none, none)
  | (name, value) :: members =>
    match name with
    | "attributes" => do
      let attributes ← attributesOfJson value
      let (_, children?, tag?) ← elementMembers members
      return (some attributes, children?, tag?)
    | "children" => do
      let children ← childrenOfJson value
      let (attributes?, _, tag?) ← elementMembers members
      return (attributes?, some children, tag?)
    | "tag" => do
      let tag ← readStringValue value
      let (attributes?, children?, _) ← elementMembers members
      return (attributes?, children?, some tag)
    | _ => elementMembers members

end

end NoteMarkup
