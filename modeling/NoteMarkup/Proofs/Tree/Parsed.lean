import NoteMarkup.Proofs.Token.WellFormed
import NoteMarkup.Proofs.Tree.Siblings

/-!
# Trees that are read are well-formed

Reading builds well-formed nodes only, from any text and also where it stops at an error.
-/

namespace NoteMarkup

structure FoundWellFormed (found : Found) (lexemes : List Lexeme) : Prop where
  nodes : ∀ node ∈ found.nodes, node.WellFormed
  rest : ∀ rest, found.rest = .ok rest → rest <:+ lexemes

section

variable {found : Found} {node : Node} {lexemes : List Lexeme} {lexeme : Lexeme}

theorem FoundWellFormed.fail (e : ParseError) : FoundWellFormed ⟨[], .error e⟩ lexemes :=
  ⟨fun _ h => (List.not_mem_nil h).elim, fun _ h => by cases h⟩

theorem FoundWellFormed.stop {rest : List Lexeme} (h : rest <:+ lexemes) :
    FoundWellFormed ⟨[], .ok rest⟩ lexemes :=
  ⟨fun _ h => (List.not_mem_nil h).elim, fun _ hrest => by cases hrest; exact h⟩

theorem FoundWellFormed.trans {before : List Lexeme} (h : FoundWellFormed found lexemes)
    (hsuffix : lexemes <:+ before) : FoundWellFormed found before :=
  ⟨h.nodes, fun rest hrest => (h.rest rest hrest).trans hsuffix⟩

theorem FoundWellFormed.cons (h : FoundWellFormed found lexemes) :
    FoundWellFormed found (lexeme :: lexemes) :=
  h.trans (List.suffix_cons lexeme lexemes)

theorem FoundWellFormed.prepend (h : FoundWellFormed found lexemes) (wf : node.WellFormed) :
    FoundWellFormed (found.prepend [node]) lexemes := by
  refine ⟨fun other hother => ?_, h.rest⟩
  obtain hnew | hold := List.mem_append.mp hother
  · rw [List.mem_singleton.mp hnew]
    exact wf
  · exact h.nodes other hold

end

theorem Node.wellFormed_of_opening {tag : String} {attributes : List (String × String)}
    {selfClosing : Bool} {children : List Node}
    (token : (Token.opening tag attributes selfClosing).WellFormed)
    (void : isVoidTag tag = true → children = []) (inner : ∀ node ∈ children, node.WellFormed) :
    (Node.element ⟨tag, attributes, children⟩).WellFormed :=
  .element ⟨token.tag, token.names, token.distinct⟩ void inner

/-- Siblings that are read from well-formed tokens are well-formed, however reading ends. -/
theorem foundWellFormed_readSiblings (size depth : Nat) (open? : Option OpenTag)
    (lexemes : List Lexeme) (wf : ∀ lexeme ∈ lexemes, lexeme.token.WellFormed) :
    FoundWellFormed (readSiblings size depth open? lexemes) lexemes := by
  induction depth, open?, lexemes using readSiblings_induct size with
  | atEnd depth open? =>
    rw [readSiblings_nil]
    cases open? with
    | none => exact .stop List.suffix_rfl
    | some own => exact .fail _
  | text depth open? source s lexemes ih =>
    obtain ⟨wfToken, wfLexemes⟩ := List.forall_mem_cons.mp wf
    rw [readSiblings_text]
    exact ((ih wfLexemes).prepend (.text wfToken)).cons
  | comment depth open? source lexemes ih =>
    rw [readSiblings_comment]
    exact (ih (List.forall_mem_cons.mp wf).2).cons
  | declaration depth open? source lexemes ih =>
    rw [readSiblings_declaration]
    exact (ih (List.forall_mem_cons.mp wf).2).cons
  | cutOff depth open? source inside lexemes =>
    rw [readSiblings_cutOff]
    exact .fail _
  | closing depth open? source tag lexemes =>
    rw [readSiblings_closing]
    split
    · exact .stop (List.suffix_cons _ _)
    · exact .fail _
  | childless depth open? source tag attributes selfClosing lexemes h ih =>
    obtain ⟨wfToken, wfLexemes⟩ := List.forall_mem_cons.mp wf
    rw [readSiblings_opening_of_childless h]
    exact ((ih wfLexemes).prepend (Node.wellFormed_of_opening wfToken (fun _ => rfl)
      fun _ h => (List.not_mem_nil h).elim)).cons
  | tooDeep depth open? source tag attributes selfClosing lexemes h hle =>
    rw [readSiblings_opening_of_maxDepth_le h hle]
    exact .fail _
  | unfinished depth open? source tag attributes selfClosing lexemes e h hlt herror ih =>
    obtain ⟨wfToken, wfLexemes⟩ := List.forall_mem_cons.mp wf
    rw [readSiblings_opening_of_error h hlt herror]
    -- the element is kept with the content that was read before the error
    refine ⟨fun node hnode => ?_, fun _ h => by cases h⟩
    rw [List.mem_singleton.mp hnode]
    exact Node.wellFormed_of_opening wfToken (fun hvoid => by simp [hvoid] at h) (ih wfLexemes).nodes
  | element depth open? source tag attributes selfClosing lexemes rest h hlt hok ih ihRest =>
    obtain ⟨wfToken, wfLexemes⟩ := List.forall_mem_cons.mp wf
    -- what follows the element comes from the end of the tokens behind its opening tag
    have inner := ih wfLexemes
    have hsuffix := inner.rest rest hok
    have after := ihRest fun lexeme hlexeme => wfLexemes lexeme (hsuffix.subset hlexeme)
    have wfElement := Node.wellFormed_of_opening wfToken (fun hvoid => by simp [hvoid] at h)
      inner.nodes
    rw [readSiblings_opening_of_ok h hlt hok]
    exact ((after.prepend wfElement).trans hsuffix).cons

/-- The tree of any text is well-formed, also where reading stopped at an error. -/
theorem wellFormed_parse (markup : String) :
    ∀ node ∈ (parse markup).children, node.WellFormed := by
  rw [parse_eq]
  exact (foundWellFormed_readSiblings _ _ _ (lexemes markup) fun _ h =>
    wellFormed_of_mem_lexemesOf h).nodes

end NoteMarkup
