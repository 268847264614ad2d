import NoteMarkup.Proofs.Token.Cut
import NoteMarkup.Proofs.Tree.Siblings

/-!
# Reading with a stack

Reading a tree is running a machine with a stack of open elements over the tokens of the text.

- `run_eq_resume_readSiblings` is the invariant: reading the content of the innermost open element
  is running the machine up to the step that closes it;
- `parse_eq_run_of_cut` is the statement about whole texts.
-/

namespace NoteMarkup

/-! ## The machine -/

/-- An element that is still open: the place of its opening tag, and its children so far. -/
structure OpenElement where
  tag : String
  attributes : List (String × String)
  offset : Nat
  children : List Node := []

/-- The nodes outside all open elements, and the open elements, the innermost first. -/
structure Machine where
  nodes : List Node := []
  stack : List OpenElement := []

/-- A tree as far as it was built, and what stopped the machine. -/
structure Machine.Outcome where
  nodes : List Node
  error? : Option ParseError

def OpenElement.node (own : OpenElement) (last : List Node) : Node :=
  .element ⟨own.tag, own.attributes, own.children ++ last⟩

namespace Machine

def add (nodes : List Node) (m : Machine) : Machine :=
  match m.stack with
  | [] => { m with nodes := m.nodes ++ nodes }
  | own :: stack => { m with stack := { own with children := own.children ++ nodes } :: stack }

def push (own : OpenElement) (m : Machine) : Machine :=
  { m with stack := own :: m.stack }

def pop (m : Machine) : Machine :=
  match m.stack with
  | [] => m
  | own :: stack => { m with stack }.add [own.node []]

/-- The tree that comes out if every open element ends here. -/
def tree (m : Machine) : List Node :=
  m.nodes ++ m.stack.foldl (fun last own => [own.node last]) []

def step (m : Machine) (piece : Piece) : Except ParseError Machine :=
  match piece.token with
  | .text s => .ok (m.add [.text s])
  | .comment => .ok m
  | .declaration => .ok m
  | .opening tag attributes selfClosing =>
    if selfClosing || isVoidTag tag then
      .ok (m.add [.element ⟨tag, attributes, []⟩])
    else if m.stack.length < 512 then
      .ok (m.push ⟨tag, attributes, piece.offset, []⟩)
    else
      .error (.nestingTooDeep piece.offset)
  | .closing tag =>
    if m.stack.head?.map OpenElement.tag = some tag then
      .ok m.pop
    else
      .error (.unmatchedClosingTag tag (m.stack.head?.map OpenElement.tag) piece.offset)
  | .cutOff inside => .error (.unexpectedEnd inside piece.offset)

/-- Runs the machine up to the first step that fails, or up to the end of the text, where no
    element may be open. -/
def run (m : Machine) (pieces : List Piece) : Outcome :=
  match pieces with
  | [] => ⟨m.tree, m.stack.head?.map fun own => .unclosedElement own.tag own.offset⟩
  | piece :: pieces =>
    match m.step piece with
    | .ok next => next.run pieces
    | .error e => ⟨m.tree, some e⟩

theorem run_of_step_eq_ok {m next : Machine} {piece : Piece} (steps : m.step piece = .ok next)
    (pieces : List Piece) : m.run (piece :: pieces) = next.run pieces := by
  rw [run, steps]

theorem run_of_step_eq_error {m : Machine} {piece : Piece} {e : ParseError}
    (fails : m.step piece = .error e) (pieces : List Piece) :
    m.run (piece :: pieces) = ⟨m.tree, some e⟩ := by
  rw [run, fails]

section

variable {m : Machine} {offset : Nat} {tag : String} {attributes : List (String × String)}
  {selfClosing : Bool}

theorem step_childless (childless : (selfClosing || isVoidTag tag) = true) :
    m.step ⟨offset, .opening tag attributes selfClosing⟩ =
      .ok (m.add [.element ⟨tag, attributes, []⟩]) :=
  if_pos childless

theorem step_opening (content : (selfClosing || isVoidTag tag) = false)
    (shallow : m.stack.length < 512) :
    m.step ⟨offset, .opening tag attributes selfClosing⟩ =
      .ok (m.push ⟨tag, attributes, offset, []⟩) := by
  simp only [step, content, Bool.false_eq_true, if_false, if_pos shallow]

theorem step_opening_of_le (content : (selfClosing || isVoidTag tag) = false)
    (deep : 512 ≤ m.stack.length) :
    m.step ⟨offset, .opening tag attributes selfClosing⟩ = .error (.nestingTooDeep offset) := by
  simp only [step, content, Bool.false_eq_true, if_false, if_neg (Nat.not_lt.mpr deep)]

theorem step_closing (own : m.stack.head?.map OpenElement.tag = some tag) :
    m.step ⟨offset, .closing tag⟩ = .ok m.pop :=
  if_pos own

theorem step_closing_of_ne (other : m.stack.head?.map OpenElement.tag ≠ some tag) :
    m.step ⟨offset, .closing tag⟩ =
      .error (.unmatchedClosingTag tag (m.stack.head?.map OpenElement.tag) offset) :=
  if_neg other

end

@[simp]
theorem add_nil (m : Machine) : m.add [] = m := by
  cases m with
  | mk nodes stack => cases stack <;> simp [add]

theorem length_stack_add (m : Machine) (nodes : List Node) :
    (m.add nodes).stack.length = m.stack.length := by
  cases m with
  | mk outer stack => cases stack <;> simp [add]

/-- What is appended changes neither the tag nor the place of an open element. -/
theorem map_head?_stack_add (m : Machine) (nodes : List Node) :
    (m.add nodes).stack.head?.map (fun own => (own.tag, own.offset)) =
      m.stack.head?.map fun own => (own.tag, own.offset) := by
  cases m with
  | mk outer stack => cases stack <;> rfl

/-- An element with its content is the last child of the innermost open element, when its closing
    tag is met and also when reading stops inside it. -/
theorem pop_push_add (m : Machine) (own : OpenElement) (nodes : List Node) :
    ((m.push own).add nodes).pop = m.add [own.node nodes] := by
  simp [push, add, pop, OpenElement.node]

theorem tree_push_add (m : Machine) (own : OpenElement) (nodes : List Node) :
    ((m.push own).add nodes).tree = (m.add [own.node nodes]).tree := by
  cases m with
  | mk outer stack => cases stack <;> simp [push, add, tree, OpenElement.node]

/-! ## Reading is running -/

def resume (size : Nat) (m : Machine) (found : Found) : Outcome :=
  match found.rest with
  | .error e => ⟨(m.add found.nodes).tree, some e⟩
  | .ok rest =>
    match m.stack with
    | [] => ⟨(m.add found.nodes).tree, none⟩
    | _ :: _ => (m.add found.nodes).pop.run (rest.map (Lexeme.piece size))

theorem resume_prepend (size : Nat) (m : Machine) (nodes : List Node) (found : Found) :
    m.resume size (found.prepend nodes) = (m.add nodes).resume size found := by
  cases m with
  | mk outer stack => cases stack <;> simp [resume, Found.prepend, add]

section

variable {size : Nat} {m next : Machine} {source : List Char} {token : Token}
  {lexemes : List Lexeme}

theorem run_lexeme (steps : m.step ⟨offsetOf size source, token⟩ = .ok next) :
    m.run ((⟨source, token⟩ :: lexemes).map (Lexeme.piece size)) =
      next.run (lexemes.map (Lexeme.piece size)) := by
  rw [List.map_cons, Lexeme.piece, run_of_step_eq_ok steps]

theorem run_lexeme_of_error {e : ParseError}
    (fails : m.step ⟨offsetOf size source, token⟩ = .error e) :
    m.run ((⟨source, token⟩ :: lexemes).map (Lexeme.piece size)) = ⟨m.tree, some e⟩ := by
  rw [List.map_cons, Lexeme.piece, run_of_step_eq_error fails]

end

/-- The machine stands where reading stands: this many elements are open, and the innermost of
    them is this one. -/
structure At (size depth : Nat) (open? : Option OpenTag) (m : Machine) : Prop where
  depth : m.stack.length = depth
  innermost : m.stack.head?.map (fun own => (own.tag, own.offset)) =
    open?.map fun own => (own.tag, offsetOf size own.source)

section

variable {size depth : Nat} {open? : Option OpenTag} {m : Machine}

theorem At.add (stands : At size depth open? m) (nodes : List Node) :
    At size depth open? (m.add nodes) :=
  ⟨by rw [length_stack_add, stands.depth], by rw [map_head?_stack_add, stands.innermost]⟩

theorem At.push (stands : At size depth open? m) (tag : String) (attributes : List (String × String))
    (source : List Char) :
    At size (depth + 1) (some ⟨tag, source⟩) (m.push ⟨tag, attributes, offsetOf size source, []⟩) :=
  ⟨by simp [Machine.push, stands.depth], rfl⟩

theorem At.map_innermost {α : Type} (stands : At size depth open? m) (f : String → Nat → α) :
    m.stack.head?.map (fun own => f own.tag own.offset) =
      open?.map fun own => f own.tag (offsetOf size own.source) := by
  have mapped := congrArg (Option.map fun own => f own.1 own.2) stands.innermost
  simpa only [Option.map_map, Function.comp_def] using mapped

theorem At.tag (stands : At size depth open? m) :
    m.stack.head?.map OpenElement.tag = open?.map OpenTag.tag :=
  stands.map_innermost fun tag _ => tag

/-- Reading the content of an element goes as the machine goes until the element is closed; what
    is read outside all elements goes as the machine goes to its end. -/
theorem run_eq_resume_readSiblings (size depth : Nat) (open? : Option OpenTag)
    (lexemes : List Lexeme) (m : Machine) (stands : At size depth open? m) :
    m.run (lexemes.map (Lexeme.piece size)) =
      m.resume size (readSiblings size depth open? lexemes) := by
  induction depth, open?, lexemes using readSiblings_induct size generalizing m with
  | atEnd depth open? =>
    rw [readSiblings_nil, List.map_nil, run, stands.map_innermost ParseError.unclosedElement]
    cases open? with
    | none =>
      have outside : m.stack = [] := by simpa using stands.tag
      simp only [resume, outside, add_nil, Option.map_none]
    | some own => simp only [resume, add_nil, Option.map_some]
  | text depth open? source s lexemes ih =>
    rw [readSiblings_text, resume_prepend, ← ih _ (stands.add _)]
    exact run_lexeme rfl
  | comment depth open? source lexemes ih =>
    rw [readSiblings_comment, ← ih m stands]
    exact run_lexeme rfl
  | declaration depth open? source lexemes ih =>
    rw [readSiblings_declaration, ← ih m stands]
    exact run_lexeme rfl
  | cutOff depth open? source inside lexemes =>
    rw [readSiblings_cutOff, run_lexeme_of_error rfl, resume, add_nil]
  | closing depth open? source tag lexemes =>
    rw [readSiblings_closing, ← stands.tag]
    by_cases own : m.stack.head?.map OpenElement.tag = some tag
    · rw [run_lexeme (step_closing own), if_pos own, resume, add_nil]
      cases stack : m.stack with
      | nil => simp [stack] at own
      | cons _ _ => rfl
    · rw [run_lexeme_of_error (step_closing_of_ne own), if_neg own, resume, add_nil]
  | childless depth open? source tag attributes selfClosing lexemes h ih =>
    rw [readSiblings_opening_of_childless h, resume_prepend, ← ih _ (stands.add _)]
    exact run_lexeme (step_childless h)
  | tooDeep depth open? source tag attributes selfClosing lexemes h hle =>
    rw [readSiblings_opening_of_maxDepth_le h hle, resume, add_nil]
    exact run_lexeme_of_error (step_opening_of_le h (stands.depth ▸ hle))
  | unfinished depth open? source tag attributes selfClosing lexemes e h hlt herror ih =>
    -- the machine stops inside the element, which stays open with what it holds so far
    have inner := ih _ (stands.push tag attributes source)
    rw [readSiblings_opening_of_error h hlt herror, run_lexeme (step_opening h (stands.depth ▸ hlt)),
      inner, resume, herror]
    exact congrArg (Outcome.mk · (some e)) (tree_push_add m _ _)
  | element depth open? source tag attributes selfClosing lexemes rest h hlt hok ih ihRest =>
    -- the machine comes back to this depth with one more node, behind the closing tag
    have inner := ih _ (stands.push tag attributes source)
    rw [readSiblings_opening_of_ok h hlt hok, run_lexeme (step_opening h (stands.depth ▸ hlt)), inner,
      resume, hok, resume_prepend, ← ihRest _ (stands.add _)]
    exact congrArg (run · _) (pop_push_add m _ _)

end

/-! ## Whole texts -/

def Outcome.root (outcome : Outcome) : Element :=
  ⟨rootTag, [], outcome.nodes⟩

def Outcome.result (outcome : Outcome) : Except ParseError Element :=
  match outcome.error? with
  | none => .ok outcome.root
  | some e => .error e

theorem resume_start (size : Nat) (found : Found) :
    resume size {} found =
      ⟨found.nodes, match found.rest with | .ok _ => none | .error e => some e⟩ := by
  cases found with
  | mk nodes rest => cases rest <;> simp [resume, add, tree]

theorem run_piecesOf (markup : String) :
    run {} (piecesOf markup) =
      resume markup.length {} (readSiblings markup.length 0 none (lexemes markup)) :=
  run_eq_resume_readSiblings markup.length 0 none (lexemes markup) {} ⟨rfl, rfl⟩

theorem parse_eq_root_run (markup : String) : parse markup = (run {} (piecesOf markup)).root := by
  rw [parse_eq, run_piecesOf, resume_start, Outcome.root]

theorem parseStrict_eq_result_run (markup : String) :
    parseStrict markup = (run {} (piecesOf markup)).result := by
  rw [parseStrict_eq, parse_eq, run_piecesOf, resume_start]
  cases (readSiblings markup.length 0 none (lexemes markup)).rest <;> rfl

/-- Every text is cut into tokens in exactly one way, and its tree, or what is wrong with it, is
    what the machine makes of these tokens. -/
theorem parse_eq_run_of_cut (markup : String) :
    ∃ pieces, (∀ other, Cuts 0 markup.toList other ↔ other = pieces) ∧
      parse markup = (run {} pieces).root ∧ parseStrict markup = (run {} pieces).result :=
  ⟨piecesOf markup, fun _ => cuts_markup_iff, parse_eq_root_run markup,
    parseStrict_eq_result_run markup⟩

end Machine

end NoteMarkup
