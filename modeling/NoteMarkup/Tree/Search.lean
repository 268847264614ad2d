import NoteMarkup.Tree

/-!
# Searching a tree

Questions about what lies below an element, always in document order.

- `Element.descendants` lists the elements below an element, parents first;
- `Element.find?` searches them and stops at the first match;
- `Element.editableRegion?` is the region that holds the content of a block;
- `Element.textContent` is the character data without the markup.
-/

namespace NoteMarkup

/-! ## Descendants -/

mutual

/-- The elements below an element in document order, parents before children. -/
def Element.descendants : Element → List Element
  | ⟨_, _, children⟩ => descendantsOf children

def descendantsOf : List Node → List Element
  | [] => []
  | node :: nodes => node.elements ++ descendantsOf nodes

def Node.elements : Node → List Element
  | .element e => e :: e.descendants
  | .text _ => []

end

mutual

/-- The first element below this one that satisfies `p`, in document order. -/
def Element.find? (p : Element → Bool) : Element → Option Element
  | ⟨_, _, children⟩ => findIn? p children

def findIn? (p : Element → Bool) : List Node → Option Element
  | [] => none
  | node :: nodes =>
    match node.find? p with
    | some found => some found
    | none => findIn? p nodes

def Node.find? (p : Element → Bool) : Node → Option Element
  | .element e => if p e then some e else e.find? p
  | .text _ => none

end

namespace Element

/-- A region that the note system lets the user edit. -/
def isEditable (e : Element) : Bool :=
  e.tag == "div" && e.attr? "contenteditable" == some "true"

/-- The first editable region below an element, which holds the content of a block. -/
def editableRegion? (e : Element) : Option Element :=
  e.find? isEditable

/-- The content of a block: that of its first editable region, or its own without one. -/
def editableContent (e : Element) : List Node :=
  (e.editableRegion?.getD e).children

/-- The first image below an element. -/
def firstImage? (e : Element) : Option Element :=
  e.find? (·.tag == "img")

end Element

/-! ## Text content -/

mutual

/-- The character data below an element, without the markup. -/
def Element.textContent : Element → String
  | ⟨_, _, children⟩ => textContentOf children

def textContentOf : List Node → String
  | [] => ""
  | node :: nodes => node.textContent ++ textContentOf nodes

def Node.textContent : Node → String
  | .element e => e.textContent
  | .text s => s

end

end NoteMarkup
