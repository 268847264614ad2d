import NoteMarkup.Proofs.Tree.Parsed
import NoteMarkup.Proofs.Tree.RoundTrip

/-!
# Reading behind printed elements

What is read behind the markup of well-formed elements does not depend on them: the same nodes
follow theirs, and the same error is found, further into the text.
-/

namespace NoteMarkup

def ParseError.shift (front : Nat) : ParseError → ParseError
  | unmatchedClosingTag found expected? offset => unmatchedClosingTag found expected? (front + offset)
  | unclosedElement tag offset => unclosedElement tag (front + offset)
  | unexpectedEnd inside offset => unexpectedEnd inside (front + offset)
  | nestingTooDeep offset => nestingTooDeep (front + offset)

def Found.shift (front : Nat) (found : Found) : Found :=
  ⟨found.nodes, found.rest.mapError (ParseError.shift front)⟩

theorem Found.shift_prepend (front : Nat) (nodes : List Node) (found : Found) :
    (found.prepend nodes).shift front = (found.shift front).prepend nodes := rfl

theorem Found.rest_shift_of_ok {found : Found} {rest : List Lexeme} (h : found.rest = .ok rest)
    (front : Nat) : (found.shift front).rest = .ok rest := by
  rw [Found.shift, h]
  rfl

theorem Found.rest_shift_of_error {found : Found} {e : ParseError} (h : found.rest = .error e)
    (front : Nat) : (found.shift front).rest = .error (e.shift front) := by
  rw [Found.shift, h]
  rfl

theorem offsetOf_add {size : Nat} {source : List Char} (h : source.length ≤ size) (front : Nat) :
    offsetOf (front + size) source = front + offsetOf size source :=
  Nat.add_sub_assoc h front

theorem length_source_le_of_mem_lexemesOf {cs : List Char} {lexeme : Lexeme}
    (h : lexeme ∈ lexemesOf cs) : lexeme.source.length ≤ cs.length := by
  fun_induction lexemesOf cs with
  | case1 => cases h
  | case2 c cs construct hread =>
    rw [List.mem_singleton.mp h]
    exact Nat.zero_le _
  | case3 c cs token rest hread ih =>
    cases h with
    | head => exact Nat.le_refl _
    | tail _ h => exact Nat.le_trans (ih h) (Nat.le_of_lt (length_rest_readToken hread))

/-- Tokens that stand further into a text are read as the same siblings, or with the same error
    further into the text. -/
theorem readSiblings_add (front size depth : Nat) (open? : Option OpenTag) (lexemes : List Lexeme)
    (wf : ∀ lexeme ∈ lexemes, lexeme.token.WellFormed)
    (own : ∀ tag ∈ open?, tag.source.length ≤ size)
    (inside : ∀ lexeme ∈ lexemes, lexeme.source.length ≤ size) :
    readSiblings (front + size) depth open? lexemes =
      (readSiblings size depth open? lexemes).shift front := by
  induction depth, open?, lexemes using readSiblings_induct size with
  | atEnd depth open? =>
    rw [readSiblings_nil, readSiblings_nil]
    cases open? with
    | none => rfl
    | some tag =>
      simp only [offsetOf_add (own tag rfl)]
      rfl
  | text depth open? source s lexemes ih =>
    rw [readSiblings_text, readSiblings_text, Found.shift_prepend,
      ih (List.forall_mem_cons.mp wf).2 own (List.forall_mem_cons.mp inside).2]
  | comment depth open? source lexemes ih =>
    rw [readSiblings_comment, readSiblings_comment]
    exact ih (List.forall_mem_cons.mp wf).2 own (List.forall_mem_cons.mp inside).2
  | declaration depth open? source lexemes ih =>
    rw [readSiblings_declaration, readSiblings_declaration]
    exact ih (List.forall_mem_cons.mp wf).2 own (List.forall_mem_cons.mp inside).2
  | cutOff depth open? source construct lexemes =>
    rw [readSiblings_cutOff, readSiblings_cutOff, offsetOf_add (inside _ List.mem_cons_self)]
    rfl
  | closing depth open? source tag lexemes =>
    rw [readSiblings_closing, readSiblings_closing, offsetOf_add (inside _ List.mem_cons_self)]
    split <;> rfl
  | childless depth open? source tag attributes selfClosing lexemes h ih =>
    rw [readSiblings_opening_of_childless h, readSiblings_opening_of_childless h,
      Found.shift_prepend, ih (List.forall_mem_cons.mp wf).2 own (List.forall_mem_cons.mp inside).2]
  | tooDeep depth open? source tag attributes selfClosing lexemes h hle =>
    rw [readSiblings_opening_of_maxDepth_le h hle, readSiblings_opening_of_maxDepth_le h hle,
      offsetOf_add (inside _ List.mem_cons_self)]
    rfl
  | unfinished depth open? source tag attributes selfClosing lexemes e h hlt herror ih =>
    obtain ⟨here, behind⟩ := List.forall_mem_cons.mp inside
    have inner := ih (List.forall_mem_cons.mp wf).2 (fun _ h => by cases h; exact here) behind
    rw [readSiblings_opening_of_error h hlt herror, readSiblings_opening_of_error h hlt
      (by rw [inner, Found.rest_shift_of_error herror]), inner]
    rfl
  | element depth open? source tag attributes selfClosing lexemes rest h hlt hok ih ihRest =>
    have wfLexemes := (List.forall_mem_cons.mp wf).2
    obtain ⟨here, behind⟩ := List.forall_mem_cons.mp inside
    have inner := ih wfLexemes (fun _ h => by cases h; exact here) behind
    -- what follows the element comes from the end of the tokens behind its opening tag
    have suffix := (foundWellFormed_readSiblings size _ _ lexemes wfLexemes).rest rest hok
    have after := ihRest (fun lexeme h => wfLexemes lexeme (suffix.subset h)) own
      (fun lexeme h => behind lexeme (suffix.subset h))
    rw [readSiblings_opening_of_ok h hlt hok, readSiblings_opening_of_ok h hlt
      (by rw [inner, Found.rest_shift_of_ok hok]), inner, after]
    rfl

/-! ## Behind elements -/

theorem find?_isTooDeep_eq_none {places : List TagPlace}
    (shallow : ∀ place ∈ places, isVoidTag place.tag = false → place.ancestors < 512) :
    places.find? TagPlace.isTooDeep = none := by
  refine List.find?_eq_none.mpr fun place member tooDeep => ?_
  simp only [TagPlace.isTooDeep, Bool.and_eq_true, Bool.not_eq_true', beq_iff_eq] at tooDeep
  exact absurd tooDeep.2 (Nat.ne_of_lt (shallow place member tooDeep.1))

/-- Printed elements read back in front of any other markup: unlike a text, no element is read
    further than it was written. -/
theorem readsBack_blocks {size depth : Nat} {open? : Option OpenTag} {rest : List Char}
    (bound : depth ≤ maxDepth) :
    ∀ {blocks : List Element} {offset : Nat},
      (∀ e ∈ blocks, (Node.element e).WellFormed) → (∀ e ∈ blocks, (Node.element e).Separated) →
      offset + ((printNodes (blocks.map .element)).toList ++ rest).length = size →
      ReadsBack
        (readSiblings size depth open?
          (lexemesOf ((printNodes (blocks.map .element)).toList ++ rest)))
        (readSiblings size depth open? (lexemesOf rest)) (blocks.map .element)
        (tagPlacesOf depth offset (blocks.map .element))
  | [], _, _, _, _ => readsBack_nil _
  | e :: blocks, offset, wf, separated, hsize => by
    obtain ⟨wfFirst, wfRest⟩ := List.forall_mem_cons.mp wf
    obtain ⟨separatedFirst, separatedRest⟩ := List.forall_mem_cons.mp separated
    rw [List.map_cons, printNodes, String.toList_append, List.append_assoc] at hsize ⊢
    refine ReadsBack.append (Node.readsBack_print wfFirst separatedFirst bound
      (fun text => Bool.noConfusion text) hsize) ?_
    refine readsBack_blocks bound wfRest separatedRest ?_
    simp only [List.length_append, String.length_toList] at hsize ⊢
    omega

section

variable {blocks : List Element} (wf : ∀ e ∈ blocks, (Node.element e).WellFormed)
  (separated : ∀ e ∈ blocks, (Node.element e).Separated)
  (shallow : ∀ place ∈ tagPlacesOf 0 0 (blocks.map .element),
    isVoidTag place.tag = false → place.ancestors < 512)

include wf separated shallow

/-- What follows the markup of elements is read as it is read alone. -/
theorem readSiblings_blocks_append (markup : String) :
    readSiblings (printNodes (blocks.map .element) ++ markup).length 0 none
        (lexemes (printNodes (blocks.map .element) ++ markup)) =
      ((readSiblings markup.length 0 none (lexemes markup)).shift
        (printNodes (blocks.map .element)).length).prepend (blocks.map .element) := by
  have hsize : 0 + ((printNodes (blocks.map .element)).toList ++ markup.toList).length =
      (printNodes (blocks.map .element) ++ markup).length := by
    simp only [List.length_append, String.length_toList, String.length_append, Nat.zero_add]
  have reads := @readsBack_blocks _ _ none _ (Nat.zero_le maxDepth) _ _ wf separated hsize
  rw [ReadsBack, find?_isTooDeep_eq_none shallow] at reads
  rw [lexemes, String.toList_append, reads, String.length_append]
  exact congrArg (Found.prepend _) (readSiblings_add _ _ _ _ _
    (fun _ h => wellFormed_of_mem_lexemesOf h) (fun _ h => by cases h)
    (fun _ h => length_source_le_of_mem_lexemesOf h))

theorem parse_blocks_append (markup : String) :
    parse (printNodes (blocks.map .element) ++ markup) =
      ⟨rootTag, [], blocks.map .element ++ (parse markup).children⟩ := by
  rw [parse_eq, parse_eq, readSiblings_blocks_append wf separated shallow]
  rfl

/-- Reading fails behind elements exactly where it fails without them. -/
theorem parseStrict_blocks_append (markup : String) :
    parseStrict (printNodes (blocks.map .element) ++ markup) =
      ((parseStrict markup).mapError
        (ParseError.shift (printNodes (blocks.map .element)).length)).map fun root =>
          ⟨rootTag, [], blocks.map .element ++ root.children⟩ := by
  rw [parseStrict_eq, parse_blocks_append wf separated shallow,
    readSiblings_blocks_append wf separated shallow, parseStrict_eq]
  generalize readSiblings markup.length 0 none (lexemes markup) = found
  obtain ⟨nodes, rest⟩ := found
  cases rest <;> rfl

end

end NoteMarkup
