import NoteMarkup.Token
import NoteMarkup.Tree

/-!
# Reading trees from markup

The tokens of a markup text are put together into a tree, strictly: a closing
tag must close the innermost open element.  Reading stops at the first
inconsistency and keeps what was built up to there.

- `ParseError` says what can be wrong, `ParseError.message` words it;
- `siblings` reads the children of one open element;
- `read` reads a whole text and returns the tree together with the error;
- `parse` keeps only the tree, `parseStrict` only a tree without errors.

Comments and declarations leave no trace in the tree.
-/

namespace NoteMarkup

/-! ## Errors -/

/-- The deepest nesting of elements that is read. -/
def maxDepth : Nat := 512

/-- What makes markup inconsistent, and where, in characters from its start. -/
inductive ParseError where
  /-- A closing tag that does not close the innermost open element, if there is one. -/
  | unmatchedClosingTag (found : String) (expected? : Option String) (offset : Nat)
  /-- The input ends while an element is open that was opened here. -/
  | unclosedElement (tag : String) (offset : Nat)
  /-- The input ends here, in the middle of a construct. -/
  | unexpectedEnd (inside : Construct) (offset : Nat)
  /-- An element with content inside `maxDepth` others. -/
  | nestingTooDeep (offset : Nat)
  deriving Repr, DecidableEq, Inhabited

def Construct.describe : Construct → String
  | .tag => "tag"
  | .closingTag => "closing tag"
  | .attributeValue => "attribute value"

def ParseError.message : ParseError → String
  | unmatchedClosingTag found _ offset =>
    "unmatched closing tag </" ++ found ++ "> at offset " ++ toString offset
  | unclosedElement tag offset =>
    "element <" ++ tag ++ "> opened at offset " ++ toString offset ++ " is never closed"
  | unexpectedEnd inside offset =>
    "unexpected end of input inside " ++ inside.describe ++ " at offset " ++ toString offset
  | nestingTooDeep offset =>
    "elements nested deeper than " ++ toString maxDepth ++ " at offset " ++ toString offset

/-! ## Siblings -/

/-- The opening tag of an element that is still open, and what the input holds from its start
    on. -/
structure OpenTag where
  tag : String
  source : List Char
  deriving Repr, DecidableEq

/-- How many of the `size` characters of the input stand in front of what is left of it. -/
def offsetOf (size : Nat) (source : List Char) : Nat :=
  size - source.length

/-- Sibling nodes as far as they could be read, and either the tokens that follow, at most
    `bound` of them, or what was wrong. -/
structure Siblings (bound : Nat) where
  nodes : List Node
  rest : Except ParseError { lexemes : List Lexeme // lexemes.length ≤ bound }

namespace Siblings

/-- No nodes, because something is wrong. -/
def fail {bound : Nat} (e : ParseError) : Siblings bound :=
  ⟨[], .error e⟩

/-- The same siblings behind one more token, as seen from in front of it. -/
def skip {bound : Nat} (s : Siblings bound) : Siblings (bound + 1) :=
  ⟨s.nodes, s.rest.map fun rest => ⟨rest.val, Nat.le_succ_of_le rest.property⟩⟩

/-- The siblings with one more node in front, which took at least one token. -/
def cons {small bound : Nat} (node : Node) (s : Siblings small) (h : small ≤ bound) :
    Siblings (bound + 1) :=
  ⟨node :: s.nodes,
    s.rest.map fun rest => ⟨rest.val, Nat.le_succ_of_le (Nat.le_trans rest.property h)⟩⟩

end Siblings

/-- Reads sibling nodes up to and including the closing tag of the innermost open element, or
    up to the end of the input where none is open.  The whole input has `size` characters, and
    `depth` elements are open. -/
def siblings (size depth : Nat) (open? : Option OpenTag) (lexemes : List Lexeme) :
    Siblings lexemes.length :=
  match lexemes with
  | [] =>
    match open? with
    | none => ⟨[], .ok ⟨[], Nat.le_refl _⟩⟩
    | some own => .fail (.unclosedElement own.tag (offsetOf size own.source))
  | ⟨source, token⟩ :: lexemes =>
    match token with
    | .text s => (siblings size depth open? lexemes).cons (.text s) (Nat.le_refl _)
    | .comment => (siblings size depth open? lexemes).skip
    | .declaration => (siblings size depth open? lexemes).skip
    | .cutOff inside => .fail (.unexpectedEnd inside (offsetOf size source))
    | .closing tag =>
      if open?.map OpenTag.tag = some tag then
        ⟨[], .ok ⟨lexemes, Nat.le_succ _⟩⟩
      else
        .fail (.unmatchedClosingTag tag (open?.map OpenTag.tag) (offsetOf size source))
    | .opening tag attributes selfClosing =>
      if selfClosing || isVoidTag tag then
        (siblings size depth open? lexemes).cons (.element ⟨tag, attributes, []⟩)
          (Nat.le_refl _)
      else if maxDepth ≤ depth then
        .fail (.nestingTooDeep (offsetOf size source))
      else
        let inner := siblings size (depth + 1) (some ⟨tag, source⟩) lexemes
        let element := Node.element ⟨tag, attributes, inner.nodes⟩
        match inner.rest with
        | .error e => ⟨[element], .error e⟩
        | .ok ⟨rest, h⟩ => (siblings size depth open? rest).cons element h
termination_by lexemes.length

/-! ## Whole texts -/

/-- A tree as far as it could be read, and the inconsistency that stopped reading. -/
structure Reading where
  root : Element
  error? : Option ParseError

/-- Reads markup into a root element, up to the first inconsistency. -/
def read (markup : String) : Reading :=
  let found := siblings markup.length 0 none (lexemes markup)
  let root : Element := ⟨rootTag, [], found.nodes⟩
  match found.rest with
  | .ok _ => ⟨root, none⟩
  | .error e => ⟨root, some e⟩

/-- The tree of a markup text up to its first inconsistency. -/
def parse (markup : String) : Element :=
  (read markup).root

/-- The tree of a markup text, which must be consistent. -/
def parseStrict (markup : String) : Except ParseError Element :=
  match (read markup).error? with
  | none => .ok (parse markup)
  | some e => .error e

end NoteMarkup
