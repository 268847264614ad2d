import NoteMarkup.Proofs.Token.WellFormed
import NoteMarkup.Proofs.Tree.Machine
import NoteMarkup.Proofs.Tree.RoundTrip

/-!
# Where reading stops at a tag

A closing tag that closes nothing, and an opening tag that is too deep, stop the reading of a text.
What stands in front of the tag is kept, and nothing else counts: the same tree is read without
error if, instead of the tag and what follows it, the open elements are closed.

- `Reaches.valid` is the invariant of a run of the machine up to a token;
- `stopsAt_of_parseStrict_eq_error` is the statement for both kinds of tags.
-/

namespace NoteMarkup

namespace Machine

/-! ## Runs up to a token -/

inductive Reaches : Machine → List Piece → Machine → Prop where
  | done {m : Machine} : Reaches m [] m
  | step {m next last : Machine} {piece : Piece} {pieces : List Piece}
      (steps : m.step piece = .ok next) (behind : Reaches next pieces last) :
      Reaches m (piece :: pieces) last

theorem Reaches.run_append {m last : Machine} {before : List Piece}
    (reaches : Reaches m before last) (after : List Piece) :
    m.run (before ++ after) = last.run after := by
  induction reaches with
  | done => rfl
  | step steps behind ih => rw [List.cons_append, run_of_step_eq_ok steps, ih]

/-- An error is an element that is open at the end, or the machine comes up to a token that it
    does not step over. -/
theorem exists_reaches_of_error {m : Machine} {pieces : List Piece} {e : ParseError}
    (h : (m.run pieces).error? = some e) :
    (∃ tag offset, e = .unclosedElement tag offset) ∨
      ∃ before piece after last, pieces = before ++ piece :: after ∧ Reaches m before last ∧
        last.step piece = .error e := by
  induction pieces generalizing m with
  | nil =>
    obtain ⟨own, -, rfl⟩ := Option.map_eq_some_iff.mp h
    exact .inl ⟨own.tag, own.offset, rfl⟩
  | cons piece pieces ih =>
    cases steps : m.step piece with
    | error other =>
      rw [run_of_step_eq_error steps] at h
      cases h
      exact .inr ⟨[], piece, pieces, m, rfl, .done, steps⟩
    | ok next =>
      rw [run_of_step_eq_ok steps] at h
      obtain unclosed | ⟨before, last, after, reached, rfl, reaches, fails⟩ := ih h
      · exact .inl unclosed
      · exact .inr ⟨piece :: before, last, after, reached, rfl, .step steps reaches, fails⟩

def tags (m : Machine) : List String :=
  m.stack.map OpenElement.tag

@[simp]
theorem tags_add (m : Machine) (nodes : List Node) : (m.add nodes).tags = m.tags := by
  cases m with
  | mk outer stack => cases stack <;> rfl

@[simp]
theorem tags_pop (m : Machine) : m.pop.tags = m.tags.tail := by
  cases m with
  | mk outer stack =>
    cases stack with
    | nil => rfl
    | cons own stack => exact tags_add ⟨outer, stack⟩ _

theorem tree_pop (m : Machine) : m.pop.tree = m.tree := by
  cases m with
  | mk outer stack =>
    cases stack with
    | nil => rfl
    | cons own stack => cases stack <;> simp [pop, add, tree, OpenElement.node]

/-- What a step can come to. -/
inductive Effect (m : Machine) (piece : Piece) : Except ParseError Machine → Prop where
  | skip : Effect m piece (.ok m)
  | add (nodes : List Node) : Effect m piece (.ok (m.add nodes))
  | push {tag : String} {attributes : List (String × String)} {selfClosing : Bool}
      (token : piece.token = .opening tag attributes selfClosing) (shallow : m.tags.length < 512) :
      Effect m piece (.ok (m.push ⟨tag, attributes, piece.offset, []⟩))
  | pop : Effect m piece (.ok m.pop)
  | unmatched {tag : String} (token : piece.token = .closing tag) :
      Effect m piece (.error (.unmatchedClosingTag tag m.tags.head? piece.offset))
  | tooDeep {tag : String} {attributes : List (String × String)} {selfClosing : Bool}
      (token : piece.token = .opening tag attributes selfClosing) (deep : 512 ≤ m.tags.length) :
      Effect m piece (.error (.nestingTooDeep piece.offset))
  | cutOff (inside : Construct) : Effect m piece (.error (.unexpectedEnd inside piece.offset))

theorem effect_step (m : Machine) (piece : Piece) : Effect m piece (m.step piece) := by
  have depth : m.tags.length = m.stack.length := List.length_map ..
  have innermost : m.tags.head? = m.stack.head?.map OpenElement.tag := List.head?_map ..
  obtain ⟨offset, token⟩ := piece
  cases token with
  | text s => exact .add _
  | comment | declaration => exact .skip
  | opening tag attributes selfClosing =>
    cases childless : selfClosing || isVoidTag tag with
    | true =>
      rw [step_childless childless]
      exact .add _
    | false =>
      by_cases shallow : m.stack.length < 512
      · rw [step_opening childless shallow]
        exact .push rfl (depth ▸ shallow)
      · have deep := Nat.le_of_not_lt shallow
        rw [step_opening_of_le childless deep]
        exact .tooDeep rfl (depth ▸ deep)
  | closing tag =>
    by_cases own : m.stack.head?.map OpenElement.tag = some tag
    · rw [step_closing own]
      exact .pop
    · rw [step_closing_of_ne own, ← innermost]
      exact .unmatched rfl
  | cutOff inside => exact .cutOff inside

structure Valid (m : Machine) : Prop where
  depth : m.tags.length ≤ 512
  named : ∀ tag ∈ m.tags, isTagName tag = true

theorem Valid.start : Valid {} :=
  ⟨Nat.zero_le _, fun _ h => (List.not_mem_nil h).elim⟩

theorem Valid.step {m next : Machine} {piece : Piece} (valid : m.Valid)
    (wf : piece.token.WellFormed) (steps : m.step piece = .ok next) : next.Valid := by
  have effect := effect_step m piece
  rw [steps] at effect
  cases effect with
  | skip => exact valid
  | add nodes => exact ⟨by simpa using valid.depth, by simpa using valid.named⟩
  | push token shallow =>
    rw [token] at wf
    exact ⟨shallow, List.forall_mem_cons.mpr ⟨wf.tag, valid.named⟩⟩
  | pop =>
    have fewer : m.tags.tail.length ≤ m.tags.length := by simp
    refine ⟨?_, fun tag h => ?_⟩
    · rw [tags_pop]
      exact Nat.le_trans fewer valid.depth
    · rw [tags_pop] at h
      exact valid.named tag (List.mem_of_mem_tail h)

theorem Reaches.valid {m last : Machine} {pieces : List Piece} (reaches : Reaches m pieces last)
    (valid : m.Valid) (wf : ∀ piece ∈ pieces, piece.token.WellFormed) : last.Valid := by
  induction reaches with
  | done => exact valid
  | step steps behind ih =>
    obtain ⟨wfPiece, wfPieces⟩ := List.forall_mem_cons.mp wf
    exact ih (valid.step wfPiece steps) wfPieces

/-- The closing tags of its open elements bring the machine to its end, with the same tree. -/
theorem run_closing {pieces : List Piece} {m : Machine}
    (tokens : pieces.map Piece.token = m.tags.map Token.closing) :
    m.run pieces = ⟨m.tree, none⟩ := by
  induction pieces generalizing m with
  | nil =>
    have closed : m.stack = [] := by simpa [tags] using tokens
    rw [run, closed]
    rfl
  | cons piece pieces ih =>
    obtain ⟨offset, token⟩ := piece
    cases open_ : m.tags with
    | nil => simp [open_] at tokens
    | cons tag tags =>
      rw [open_, List.map_cons, List.map_cons, List.cons.injEq] at tokens
      obtain ⟨rfl, behind⟩ := tokens
      have own : m.stack.head?.map OpenElement.tag = some tag := by
        rw [← List.head?_map]
        exact congrArg List.head? open_
      rw [run_of_step_eq_ok (step_closing own), ← tree_pop]
      refine ih ?_
      rw [tags_pop, open_]
      exact behind

end Machine

/-! ## Closing what is open -/

def closingTags : List String → String
  | [] => ""
  | tag :: tags => closingTag tag ++ closingTags tags

theorem map_token_lexemesOf_closingTags {tags : List String}
    (named : ∀ tag ∈ tags, isTagName tag = true) :
    (lexemesOf (closingTags tags).toList).map Lexeme.token = tags.map Token.closing := by
  induction tags with
  | nil =>
    rw [closingTags, String.toList_empty, lexemesOf]
    rfl
  | cons tag tags ih =>
    obtain ⟨own, others⟩ := List.forall_mem_cons.mp named
    rw [closingTags, String.toList_append,
      lexemesOf_of_readToken (by simp [closingTag]) (readToken_closingTag own _), List.map_cons,
      List.map_cons, ih others]

theorem exists_cuts_closingTags {tags : List String} (named : ∀ tag ∈ tags, isTagName tag = true)
    (offset : Nat) :
    ∃ pieces, Cuts offset (closingTags tags).toList pieces ∧
      pieces.map Piece.token = tags.map Token.closing := by
  refine ⟨_, cuts_lexemesOf offset _, ?_⟩
  rw [List.map_map]
  exact map_token_lexemesOf_closingTags named

/-! ## Stops -/

/-- Reading stops here with this error: what stands in front, with these elements closed behind it,
    is the markup of the tree, and no more markup changes the tree or the error. -/
structure StopsAt (markup : String) (offset : Nat) (tags : List String) (e : ParseError) : Prop where
  inside : offset < markup.length
  repaired : parseStrict (String.ofList (markup.toList.take offset) ++ closingTags tags) =
    .ok (parse markup)
  parse_append : ∀ more, parse (markup ++ more) = parse markup
  parseStrict_append : ∀ more, parseStrict (markup ++ more) = .error e

section

open Machine

variable {markup : String} {before after : List Piece} {piece : Piece} {last : Machine}
  {e : ParseError}

theorem parse_eq_of_stop (pieces : piecesOf markup = before ++ piece :: after)
    (reaches : Reaches {} before last) (fails : last.step piece = .error e) :
    parse markup = ⟨rootTag, [], last.tree⟩ ∧ parseStrict markup = .error e := by
  rw [parse_eq_root_run, parseStrict_eq_result_run, pieces, reaches.run_append,
    run_of_step_eq_error fails]
  exact ⟨rfl, rfl⟩

theorem valid_of_reaches (pieces : piecesOf markup = before ++ after)
    (reaches : Reaches {} before last) : last.Valid := by
  refine reaches.valid .start fun piece h => ?_
  have whole : piece ∈ piecesOf markup := by
    rw [pieces]
    exact List.mem_append_left after h
  obtain ⟨lexeme, member, rfl⟩ := List.mem_map.mp whole
  exact wellFormed_of_mem_lexemesOf member

/-- Closing the elements that are open in front of a tag is the end of the same tree. -/
theorem parseStrict_closingTags (pieces : piecesOf markup = before ++ piece :: after)
    (reaches : Reaches {} before last) (tag : piece.token.isTag = true) :
    parseStrict (String.ofList (markup.toList.take piece.offset) ++ closingTags last.tags) =
      .ok ⟨rootTag, [], last.tree⟩ := by
  obtain ⟨front, own, behind, chars, place, -, replace⟩ := exists_cut_of_isTag pieces tag
  obtain ⟨closing, cut, tokens⟩ :=
    exists_cuts_closingTags (valid_of_reaches pieces reaches).named front.length
  have plain : ∀ first ∈ closing.head?, first.token.isText = false := by
    intro first h
    have member := List.mem_map_of_mem (f := Piece.token) (List.mem_of_mem_head? h)
    rw [tokens] at member
    obtain ⟨name, -, token⟩ := List.mem_map.mp member
    rw [← token]
    rfl
  have repaired : before ++ closing = piecesOf (String.ofList front ++ closingTags last.tags) := by
    refine cuts_markup_iff.mp ?_
    rw [String.toList_append, String.toList_ofList]
    exact replace plain cut
  rw [chars, place, List.take_left, parseStrict_eq_result_run, ← repaired, reaches.run_append,
    run_closing tokens]
  rfl

/-- The machine stops at a tag for what stands in front of it. -/
theorem stopsAt_of_stop (pieces : piecesOf markup = before ++ piece :: after)
    (reaches : Reaches {} before last) (fails : last.step piece = .error e)
    (tag : piece.token.isTag = true) : StopsAt markup piece.offset last.tags e := by
  obtain ⟨tree, -⟩ := parse_eq_of_stop pieces reaches fails
  obtain ⟨front, own, behind, chars, place, spells, -⟩ := exists_cut_of_isTag pieces tag
  refine ⟨?_, ?_, fun more => ?_, fun more => ?_⟩
  · have nonempty := List.length_pos_iff.mpr spells.ne_nil
    rw [place, ← String.length_toList, chars]
    simp only [List.length_append]
    omega
  · rw [tree]
    exact parseStrict_closingTags pieces reaches tag
  · obtain ⟨others, longer⟩ := exists_piecesOf_append pieces tag more
    rw [(parse_eq_of_stop longer reaches fails).1, tree]
  · obtain ⟨others, longer⟩ := exists_piecesOf_append pieces tag more
    exact (parse_eq_of_stop longer reaches fails).2

theorem exists_stop (h : parseStrict markup = .error e) :
    (∃ tag offset, e = .unclosedElement tag offset) ∨
      ∃ before piece after last, piecesOf markup = before ++ piece :: after ∧
        Reaches {} before last ∧ last.step piece = .error e := by
  refine exists_reaches_of_error ?_
  rw [parseStrict_eq_result_run, Outcome.result] at h
  cases error : (run {} (piecesOf markup)).error? with
  | none => simp [error] at h
  | some other =>
    rw [error] at h
    cases h
    rfl

/-- Where an error is not an element that is open at the end, there is a token at which the machine
    stops, and if that is a tag, nothing counts but what stands in front of it. -/
theorem exists_stopsAt (h : parseStrict markup = .error e) :
    (∃ tag offset, e = .unclosedElement tag offset) ∨
      ∃ piece last, Effect last piece (.error e) ∧ last.Valid ∧
        (piece.token.isTag = true → StopsAt markup piece.offset last.tags e ∧
          ∃ own behind, markup.toList.drop piece.offset = own ++ behind ∧
            Spells own piece.token) := by
  obtain unclosed | ⟨before, piece, after, last, pieces, reaches, fails⟩ := exists_stop h
  · exact .inl unclosed
  · have effect := last.effect_step piece
    rw [fails] at effect
    exact .inr ⟨piece, last, effect, valid_of_reaches pieces reaches, fun tag =>
      ⟨stopsAt_of_stop pieces reaches fails tag, exists_drop_of_isTag pieces tag⟩⟩

end

/-- Reading that stops at a closing tag that closes nothing, or at an opening tag that is too deep,
    keeps what stands in front of the tag: closing the elements that are open there, the one that
    the error expects first, makes markup that is read without error as the same tree.  Nothing
    that is written behind the text changes the tree or the error. -/
theorem stopsAt_of_parseStrict_eq_error (markup : String) :
    (∀ found expected? offset,
      parseStrict markup = .error (.unmatchedClosingTag found expected? offset) →
        ∃ tags, expected? = tags.head? ∧
          (∃ name rest, markup.toList.drop offset = '<' :: '/' :: (name ++ rest) ∧
            nameOf name = found) ∧
          StopsAt markup offset tags (.unmatchedClosingTag found expected? offset)) ∧
    (∀ offset, parseStrict markup = .error (.nestingTooDeep offset) →
        ∃ tags, tags.length = 512 ∧
          (∃ letter rest, markup.toList.drop offset = '<' :: letter :: rest ∧
            letter.isAlpha = true) ∧
          StopsAt markup offset tags (.nestingTooDeep offset)) := by
  constructor
  · intro found expected? offset h
    obtain ⟨_, _, unclosed⟩ | ⟨piece, last, effect, -, atTag⟩ := exists_stopsAt h
    · cases unclosed
    cases effect with
    | unmatched token =>
      obtain ⟨stops, own, behind, chars, spells⟩ := atTag (by rw [token]; rfl)
      refine ⟨last.tags, rfl, ?_, stops⟩
      rw [token] at spells
      cases spells with
      | @closing name skipped =>
        refine ⟨name, skipped ++ '>' :: behind, ?_, rfl⟩
        rw [chars]
        simp
  · intro offset h
    obtain ⟨_, _, unclosed⟩ | ⟨piece, last, effect, valid, atTag⟩ := exists_stopsAt h
    · cases unclosed
    cases effect with
    | tooDeep token deep =>
      obtain ⟨stops, own, behind, chars, spells⟩ := atTag (by rw [token]; rfl)
      refine ⟨last.tags, Nat.le_antisymm valid.depth deep, ?_, stops⟩
      rw [token] at spells
      cases spells with
      | @opening letter rest _ _ _ alpha =>
        refine ⟨letter, rest ++ behind, ?_, alpha⟩
        rw [chars]
        rfl

/-- What stands in front of a closing tag of another element, and of the 513th of 600 nested
    elements, is kept. -/
theorem stopsAt_of_parseStrict_eq_error_kept :
    (∃ tags, some "p" = tags.head? ∧
      (∃ name rest, "<p>kept</DIV>lost".toList.drop 7 = '<' :: '/' :: (name ++ rest) ∧
        nameOf name = "div") ∧
      StopsAt "<p>kept</DIV>lost" 7 tags (.unmatchedClosingTag "div" (some "p") 7)) ∧
    (∃ tags, tags.length = 512 ∧
      (∃ letter rest, (printNodes (nestedDivs 600)).toList.drop 2560 = '<' :: letter :: rest ∧
        letter.isAlpha = true) ∧
      StopsAt (printNodes (nestedDivs 600)) 2560 tags (.nestingTooDeep 2560)) := by
  have named : Element.WellNamed ⟨"p", [], []⟩ :=
    ⟨by decide, fun _ h => (List.not_mem_nil h).elim, List.nodup_nil⟩
  have cut : lexemes "<p>kept</DIV>lost" =
      [⟨"<p>kept</DIV>lost".toList, .opening "p" [] false⟩, ⟨"kept</DIV>lost".toList, .text "kept"⟩,
        ⟨"</DIV>lost".toList, .closing "div"⟩, ⟨"lost".toList, .text "lost"⟩] := by
    have kept : readToken "kept</DIV>lost".toList = .ok (.text "kept", "</DIV>lost".toList) := rfl
    have closing : readToken "</DIV>lost".toList = .ok (.closing "div", "lost".toList) := rfl
    have lost : readToken "lost".toList = .ok (.text "lost", []) := rfl
    have opening := lexemesOf_openingTag named "kept</DIV>lost".toList
    rw [lexemesOf_of_readToken (by decide) kept, lexemesOf_of_readToken (by decide) closing,
      lexemesOf_of_readToken (by decide) lost, lexemesOf] at opening
    exact opening
  have unmatched : parseStrict "<p>kept</DIV>lost" =
      .error (.unmatchedClosingTag "div" (some "p") 7) := by
    rw [Machine.parseStrict_eq_result_run, piecesOf, cut]
    rfl
  have deep := parseStrict_of_find?_eq_some (wellFormed_nestedDivs 600)
    (find?_tagPlacesOf_nestedDivs 0 (Nat.zero_le 512) (by decide))
  exact ⟨(stopsAt_of_parseStrict_eq_error _).1 _ _ _ unmatched,
    (stopsAt_of_parseStrict_eq_error _).2 _ deep⟩

end NoteMarkup
