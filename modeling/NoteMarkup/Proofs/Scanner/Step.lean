import NoteMarkup.Proofs.Tree.Machine

/-!
# Reading in place

Markup can be read in place: a cursor goes over the characters, a counter holds how many elements
are open, and what a scanner has read are the characters between the place where it started and
the cursor.  A step is one test and how the cursor moves for it.  It faults where it takes
characters from outside of the text, or counts below zero.
-/

namespace NoteMarkup

/-- The points of the reading, with what is kept there.  A point with a `start` is a loop over
    characters, behind which the characters from `start` on are taken. -/
inductive Scanner.Point where
  /-- In front of a sibling, at the head of the loop over siblings. -/
  | siblings
  | text (start : Nat)
  /-- Behind the `<!--` of a comment. -/
  | comment
  | declaration
  | closingName (offset start : Nat)
  /-- Behind the name of a closing tag, in front of its `>`. -/
  | closingEnd (offset : Nat) (found : String)
  | tagName (offset start : Nat)
  /-- In front of an attribute, at the head of the loop over attributes. -/
  | attributes (own : OpenElement)
  /-- In the blanks in front of an attribute or of the end of the tag. -/
  | beforeName (own : OpenElement)
  | attributeName (own : OpenElement) (start : Nat)
  /-- In the blanks behind a name, where a `=` may follow. -/
  | behindName (own : OpenElement) (name : String)
  /-- In the blanks behind a `=`. -/
  | beforeValue (own : OpenElement) (name : String)
  | quotedValue (own : OpenElement) (name : String) (quote : Char) (start : Nat)
  | bareValue (own : OpenElement) (name : String) (start : Nat)
  /-- Behind the `>` of an opening tag. -/
  | opened (own : OpenElement) (selfClosing : Bool)
  /-- Behind the siblings of the innermost open element, or in front of what is wrong there. -/
  | returned (error? : Option ParseError)

def Scanner.Point.start? : Scanner.Point → Option Nat
  | text start | closingName _ start | tagName _ start | attributeName _ start
  | quotedValue _ _ _ start | bareValue _ _ start => some start
  | _ => none

def Scanner.Point.behindAttribute (own : OpenElement) (attr : String × String) : Scanner.Point :=
  attributes { own with attributes := addAttribute own.attributes attr }

def Scanner.Point.behindElement : Option ParseError → Scanner.Point
  | none => siblings
  | some e => returned (some e)

/-- A reading in place: where the cursor is, how many elements are counted as open, the tree that
    is built with the elements that are open, and the point that is reached. -/
structure Scanner where
  pos : Nat := 0
  depth : Nat := 0
  tree : Machine := {}
  point : Scanner.Point := .siblings

namespace Scanner

inductive Next where
  | state (s : Scanner)
  | done (outcome : Machine.Outcome)
  | fault

/-! ## Steps -/

section

variable (chars : List Char) (s : Scanner)

def peek : Option Char :=
  chars[s.pos]?

def peekNext : Option Char :=
  chars[s.pos + 1]?

def sees (text : String) : Bool :=
  text.toList.isPrefixOf (chars.drop s.pos)

def goto (ahead : Nat) (point : Point) : Next :=
  .state { s with pos := s.pos + ahead, point }

def fail (e : ParseError) : Next :=
  s.goto 0 (.returned (some e))

/-- A loop over characters: the cursor moves on at the same point as long as the character in
    front of it is accepted. -/
def loop (accepts : Char → Bool) (behind : Next) : Next :=
  if (s.peek chars).any accepts then s.goto 1 s.point else behind

def slice (start : Nat) (use : List Char → Next) : Next :=
  if start ≤ s.pos ∧ s.pos ≤ chars.length then use ((chars.take s.pos).drop start) else .fault

def append (nodes : List Node) : Next :=
  .state { s with tree := s.tree.add nodes, point := .siblings }

def stepSiblings : Next :=
  if chars.length ≤ s.pos then
    s.goto 0 (.returned (s.tree.stack.head?.map fun own => .unclosedElement own.tag own.offset))
  else if s.sees chars "</" then
    s.goto 2 (.closingName s.pos (s.pos + 2))
  else if s.sees chars "<!--" then
    s.goto 4 .comment
  else if s.sees chars "<!" || s.sees chars "<?" then
    s.goto 0 .declaration
  else if s.peek chars == some '<' && (s.peekNext chars).any Char.isAlpha then
    s.goto 1 (.tagName s.pos (s.pos + 1))
  else
    -- also a `<` that starts no markup is taken
    s.goto 1 (.text s.pos)

def goesOn (c : Char) : Bool :=
  !(c == '<' && (s.peekNext chars).any fun next =>
    next.isAlpha || next == '/' || next == '!' || next == '?')

def stepClosed (offset : Nat) (found : String) : Next :=
  s.goto 1 (.returned (
    if s.tree.stack.head?.map OpenElement.tag = some found then none
    else some (.unmatchedClosingTag found (s.tree.stack.head?.map OpenElement.tag) offset)))

def stepInTag (own : OpenElement) : Next :=
  match s.peek chars with
  | none => s.fail (.unexpectedEnd .tag s.pos)
  | some c =>
    if c == '>' then s.goto 1 (.opened own false)
    else if c == '/' && s.peekNext chars == some '>' then s.goto 2 (.opened own true)
    else s.goto 0 (.attributeName own s.pos)

def stepOpened (own : OpenElement) (selfClosing : Bool) : Next :=
  if selfClosing || isVoidTag own.tag then s.append [own.node []]
  else if maxDepth ≤ s.depth then s.fail (.nestingTooDeep own.offset)
  else .state { s with depth := s.depth + 1, tree := s.tree.push own, point := .siblings }

def stepReturned (error? : Option ParseError) : Next :=
  match s.tree.stack with
  | [] => .done ⟨s.tree.nodes, error?⟩
  | _ :: _ =>
    if s.depth = 0 then .fault
    else
      .state { s with
        depth := s.depth - 1
        tree := s.tree.pop
        point := .behindElement error? }

def step : Next :=
  match s.point with
  | .siblings => s.stepSiblings chars
  | .text start =>
    s.loop chars (s.goesOn chars) <|
      s.slice chars start fun raw => s.append (Node.ofText (valueOf raw))
  | .comment =>
    if chars.length ≤ s.pos then s.goto 0 .siblings
    else if s.sees chars "-->" then s.goto 3 .siblings
    else s.goto 1 .comment
  | .declaration =>
    s.loop chars (· != '>') <|
      if chars.length ≤ s.pos then s.goto 0 .siblings else s.goto 1 .siblings
  | .closingName offset start =>
    s.loop chars isNameChar <|
      s.slice chars start fun raw => s.goto 0 (.closingEnd offset (nameOf raw))
  | .closingEnd offset found =>
    s.loop chars (· != '>') <|
      if chars.length ≤ s.pos then s.fail (.unexpectedEnd .closingTag s.pos)
      else s.stepClosed offset found
  | .tagName offset start =>
    s.loop chars isNameChar <|
      s.slice chars start fun raw => s.goto 0 (.attributes ⟨nameOf raw, [], offset, []⟩)
  | .attributes own => s.goto 0 (.beforeName own)
  | .beforeName own => s.loop chars Text.isBlank (s.stepInTag chars own)
  | .attributeName own start =>
    s.loop chars isAttributeNameChar <|
      s.slice chars start fun raw =>
        if raw.isEmpty then s.goto 1 (.attributes own) else s.goto 0 (.behindName own (nameOf raw))
  | .behindName own name =>
    s.loop chars Text.isBlank <|
      if s.peek chars == some '=' then s.goto 1 (.beforeValue own name)
      else s.goto 0 (.behindAttribute own (name, ""))
  | .beforeValue own name =>
    s.loop chars Text.isBlank <|
      match (s.peek chars).filter isQuote with
      | some quote => s.goto 1 (.quotedValue own name quote (s.pos + 1))
      | none => s.goto 0 (.bareValue own name s.pos)
  | .quotedValue own name quote start =>
    s.loop chars (· != quote) <|
      if chars.length ≤ s.pos then s.fail (.unexpectedEnd .attributeValue s.pos)
      else s.slice chars start fun raw => s.goto 1 (.behindAttribute own (name, valueOf raw))
  | .bareValue own name start =>
    s.loop chars isBareValueChar <|
      s.slice chars start fun raw => s.goto 0 (.behindAttribute own (name, valueOf raw))
  | .opened own selfClosing => s.stepOpened own selfClosing
  | .returned error? => s.stepReturned error?

end

/-! ## Runs -/

/-- From the first of these states on, the reading goes through all of them and through no others,
    and then comes to this outcome without a fault. -/
inductive Runs (chars : List Char) : List Scanner → Machine.Outcome → Prop where
  | done {s : Scanner} {outcome : Machine.Outcome} (ends : s.step chars = .done outcome) :
      Runs chars [s] outcome
  | step {s t : Scanner} {states : List Scanner} {outcome : Machine.Outcome}
      (steps : s.step chars = .state t) (run : Runs chars (t :: states) outcome) :
      Runs chars (s :: t :: states) outcome

end Scanner

end NoteMarkup
