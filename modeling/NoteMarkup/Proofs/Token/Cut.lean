import NoteMarkup.Proofs.Token.Spelling
import NoteMarkup.Tree.Parser

/-!
# Cutting a text into tokens

`Cuts` says how a text is cut into tokens from the left, by the characters of the tokens alone.

- `cuts_iff` says that every text is cut in exactly one way, which is the one that is read;
- `exists_piecesOf_append` says that nothing behind a tag changes how the text is cut up to it;
- `Cuts.textsApart` and `Cuts.exists_mark` say which tokens follow a text, and which texts have
  tokens that are skipped.
-/

namespace NoteMarkup

/-- A token and how many characters of its text stand in front of it. -/
structure Piece where
  offset : Nat
  token : Token
  deriving DecidableEq

/-- The pieces are the characters, cut from the left, where `offset` characters stand in front of
    them. -/
inductive Cuts : Nat → List Char → List Piece → Prop where
  | done {offset : Nat} : Cuts offset [] []
  /-- A text goes on up to the next markup. -/
  | token {offset : Nat} {own rest : List Char} {token : Token} {pieces : List Piece}
      (spells : Spells own token) (ends : token.isText = true → EndsText rest)
      (behind : Cuts (offset + own.length) rest pieces) :
      Cuts offset (own ++ rest) (⟨offset, token⟩ :: pieces)
  /-- A comment or a declaration that is never closed takes all the rest. -/
  | unclosed {offset : Nat} {cs : List Char} {token : Token} (unclosed : Unclosed cs token) :
      Cuts offset cs [⟨offset, token⟩]
  /-- A tag that is cut off has its place at the end of the text. -/
  | cutOff {offset : Nat} {cs : List Char} {inside : Construct} (cut : CutOff cs inside) :
      Cuts offset cs [⟨offset + cs.length, .cutOff inside⟩]

def Lexeme.piece (size : Nat) (lexeme : Lexeme) : Piece :=
  ⟨offsetOf size lexeme.source, lexeme.token⟩

def piecesOf (markup : String) : List Piece :=
  (lexemes markup).map (Lexeme.piece markup.length)

/-! ## Every text is cut in one way -/

theorem Spells.ne_nil {own : List Char} {token : Token} (spells : Spells own token) : own ≠ [] := by
  cases spells with
  | text nonempty => exact nonempty
  | _ => exact List.cons_ne_nil _ _

theorem Unclosed.ne_nil {cs : List Char} {token : Token} (unclosed : Unclosed cs token) :
    cs ≠ [] := by
  cases unclosed <;> exact List.cons_ne_nil _ _

theorem CutOff.ne_nil {cs : List Char} {inside : Construct} (cut : CutOff cs inside) : cs ≠ [] := by
  cases cut <;> exact List.cons_ne_nil _ _

theorem lexemesOf_of_readToken_eq_error {cs : List Char} {construct : Construct} (nonempty : cs ≠ [])
    (h : readToken cs = .error construct) : lexemesOf cs = [⟨[], .cutOff construct⟩] := by
  obtain ⟨c, cs, rfl⟩ := List.exists_cons_of_ne_nil nonempty
  rw [lexemesOf]
  split <;> simp_all

theorem offsetOf_add_length (offset : Nat) (cs : List Char) :
    offsetOf (offset + cs.length) cs = offset :=
  Nat.add_sub_cancel offset cs.length

theorem cuts_lexemesOf (offset : Nat) (cs : List Char) :
    Cuts offset cs ((lexemesOf cs).map (Lexeme.piece (offset + cs.length))) := by
  fun_induction lexemesOf cs generalizing offset with
  | case1 => exact .done
  | case2 c cs construct reads => exact .cutOff (cutOff_iff_readToken.mpr reads)
  | case3 c cs token rest reads ih =>
    have place : Lexeme.piece (offset + (c :: cs).length) ⟨c :: cs, token⟩ = ⟨offset, token⟩ := by
      rw [Lexeme.piece, offsetOf_add_length]
    rw [List.map_cons, place]
    generalize whole : c :: cs = all at reads
    have front := (tokenInFront_iff_readToken (by simp [← whole])).mpr reads
    cases front with
    | @whole own _ _ spells ends =>
      have behind := ih (offset + own.length)
      rw [Nat.add_assoc, ← List.length_append] at behind
      exact .token spells ends behind
    | unclosed unclosed =>
      rw [lexemesOf]
      exact .unclosed unclosed

/-- The one way to cut a text is the one in which it is read. -/
theorem cuts_iff {offset : Nat} {cs : List Char} {pieces : List Piece} :
    Cuts offset cs pieces ↔ pieces = (lexemesOf cs).map (Lexeme.piece (offset + cs.length)) := by
  constructor
  · intro cut
    induction cut with
    | done => rw [lexemesOf, List.map_nil]
    | @token offset own rest token pieces spells ends behind ih =>
      have nonempty : own ++ rest ≠ [] := by simp [spells.ne_nil]
      rw [lexemesOf_of_readToken nonempty (readToken_of_spells spells ends), List.map_cons,
        Lexeme.piece, offsetOf_add_length, ih, List.length_append, Nat.add_assoc]
    | unclosed unclosed =>
      have reads := (TokenInFront.unclosed unclosed).readToken
      rw [lexemesOf_of_readToken unclosed.ne_nil reads, lexemesOf, List.map_singleton, Lexeme.piece,
        offsetOf_add_length]
    | cutOff cut =>
      rw [lexemesOf_of_readToken_eq_error cut.ne_nil (cutOff_iff_readToken.mp cut),
        List.map_singleton]
      rfl
  · rintro rfl
    exact cuts_lexemesOf offset cs

theorem cuts_markup_iff {markup : String} {pieces : List Piece} :
    Cuts 0 markup.toList pieces ↔ pieces = piecesOf markup := by
  rw [cuts_iff, Nat.zero_add, String.length_toList]
  rfl

/-- A text in front ends here exactly if the first token is no text. -/
theorem Cuts.endsText_iff {offset : Nat} {cs : List Char} {pieces : List Piece}
    (cut : Cuts offset cs pieces) :
    EndsText cs ↔ ∀ first ∈ pieces.head?, first.token.isText = false := by
  cases cut with
  | done => simp [EndsText]
  | token spells ends =>
    have kind := isText_of_readToken (readToken_of_spells spells ends)
    simp [EndsText, kind, spells.ne_nil]
  | unclosed unclosed =>
    have kind := isText_of_readToken (TokenInFront.unclosed unclosed).readToken
    simp [EndsText, kind, unclosed.ne_nil]
  | cutOff cut => simp [EndsText, cut.startsMarkup, Token.isText]

/-- The characters of the tokens in front of a token, and those from it on.  Behind the first
    there can stand anything that does not start with a text. -/
theorem Cuts.split {before after : List Piece} {piece : Piece} :
    ∀ {offset : Nat} {cs : List Char}, Cuts offset cs (before ++ piece :: after) →
      ∃ own rest, cs = own ++ rest ∧ Cuts (offset + own.length) rest (piece :: after) ∧
        ∀ {other : List Char} {more : List Piece},
          (∀ first ∈ more.head?, first.token.isText = false) →
          Cuts (offset + own.length) other more → Cuts offset (own ++ other) (before ++ more) := by
  induction before with
  | nil => exact fun cut => ⟨[], _, rfl, cut, fun _ other => other⟩
  | cons first before ih =>
    intro offset cs cut
    generalize whole : first :: before ++ piece :: after = pieces at cut
    cases cut with
    | done => cases whole
    | unclosed => simp at whole
    | cutOff => simp at whole
    | @token _ own rest token _ spells ends behind =>
      obtain ⟨rfl, rfl⟩ := List.cons.inj whole
      obtain ⟨chars, rest, rfl, last, replace⟩ := ih behind
      refine ⟨own ++ chars, rest, (List.append_assoc _ _ _).symm, ?_, fun {other more} plain cut => ?_⟩
      · rwa [List.length_append, ← Nat.add_assoc]
      · rw [List.length_append, ← Nat.add_assoc] at cut
        have behindOther := replace plain cut
        rw [List.append_assoc]
        refine .token spells (fun text => ?_) behindOther
        -- behind the first token there is still what was there, or there is the other end
        rw [behindOther.endsText_iff]
        cases before with
        | nil => exact plain
        | cons second before => exact behind.endsText_iff.mp (ends text)

/-! ## In front of a tag -/

def Token.isTag : Token → Bool
  | .opening _ _ _ => true
  | .closing _ => true
  | _ => false

theorem Token.isText_of_isTag {token : Token} (tag : token.isTag = true) : token.isText = false := by
  cases token with
  | opening | closing => rfl
  | _ => cases tag

/-- A tag that is not cut off has its place in front of its characters. -/
theorem Cuts.exists_spells {offset : Nat} {cs : List Char} {piece : Piece} {after : List Piece}
    (cut : Cuts offset cs (piece :: after)) (tag : piece.token.isTag = true) :
    piece.offset = offset ∧ ∃ own behind, cs = own ++ behind ∧ Spells own piece.token := by
  cases cut with
  | token spells => exact ⟨rfl, _, _, rfl, spells⟩
  | unclosed unclosed => cases unclosed <;> cases tag
  | cutOff => cases tag

section

variable {markup : String} {before after : List Piece} {piece : Piece}

theorem exists_cut_of_isTag (pieces : piecesOf markup = before ++ piece :: after)
    (tag : piece.token.isTag = true) :
    ∃ front own behind, markup.toList = front ++ (own ++ behind) ∧ piece.offset = front.length ∧
      Spells own piece.token ∧
      ∀ {other : List Char} {more : List Piece},
        (∀ first ∈ more.head?, first.token.isText = false) →
        Cuts front.length other more → Cuts 0 (front ++ other) (before ++ more) := by
  obtain ⟨front, rest, chars, cut, replace⟩ := (cuts_markup_iff.mpr pieces.symm).split
  rw [Nat.zero_add] at cut replace
  obtain ⟨place, own, behind, rfl, spells⟩ := cut.exists_spells tag
  exact ⟨front, own, behind, chars, place, spells, replace⟩

theorem exists_drop_of_isTag (pieces : piecesOf markup = before ++ piece :: after)
    (tag : piece.token.isTag = true) :
    ∃ own behind, markup.toList.drop piece.offset = own ++ behind ∧ Spells own piece.token := by
  obtain ⟨front, own, behind, chars, place, spells, -⟩ := exists_cut_of_isTag pieces tag
  refine ⟨own, behind, ?_, spells⟩
  rw [chars, place, List.drop_left]

/-- Whatever is written behind the text, it is cut in the same way up to a tag and with it. -/
theorem exists_piecesOf_append (pieces : piecesOf markup = before ++ piece :: after)
    (tag : piece.token.isTag = true) (more : String) :
    ∃ others, piecesOf (markup ++ more) = before ++ piece :: others := by
  obtain ⟨front, own, behind, chars, place, spells, replace⟩ := exists_cut_of_isTag pieces tag
  have plain := Token.isText_of_isTag tag
  obtain ⟨offset, token⟩ := piece
  obtain rfl : offset = front.length := place
  have behindMore := cuts_lexemesOf (front.length + own.length) (behind ++ more.toList)
  have fromTag := Cuts.token spells (fun text => Bool.noConfusion (plain.symm.trans text)) behindMore
  have whole := replace (by simpa using plain) fromTag
  rw [← List.append_assoc own, ← List.append_assoc front, ← chars, ← String.toList_append,
    cuts_markup_iff] at whole
  exact ⟨_, whole.symm⟩

end

/-- Behind a text comes no other text. -/
theorem Cuts.textsApart {offset : Nat} {cs : List Char} {pieces : List Piece}
    (cut : Cuts offset cs pieces) :
    pieces.IsChain fun left right => left.token.isText = true → right.token.isText = false := by
  induction cut with
  | done => exact List.isChain_nil
  | token spells ends behind ih =>
    refine List.isChain_cons.mpr ⟨fun next first text => ?_, ih⟩
    exact behind.endsText_iff.mp (ends text) next first
  | unclosed => exact List.isChain_singleton _
  | cutOff => exact List.isChain_singleton _

def Token.isSkipped : Token → Bool
  | .comment => true
  | .declaration => true
  | _ => false

theorem OpensDeclaration.mark {mark : Char} {body : List Char} (opens : OpensDeclaration mark body) :
    mark = '!' ∨ mark = '?' := by
  obtain rfl | ⟨rfl, -⟩ := opens
  · exact .inr rfl
  · exact .inl rfl

theorem Spells.exists_mark {own : List Char} {token : Token} (spells : Spells own token)
    (skipped : token.isSkipped = true) :
    ∃ mark, (mark = '!' ∨ mark = '?') ∧ ['<', mark] <+: own := by
  cases spells with
  | comment => exact ⟨'!', .inl rfl, _, rfl⟩
  | declaration opens => exact ⟨_, opens.mark, _, rfl⟩
  | text | closing | opening => cases skipped

theorem Unclosed.exists_mark {cs : List Char} {token : Token} (unclosed : Unclosed cs token) :
    ∃ mark, (mark = '!' ∨ mark = '?') ∧ ['<', mark] <+: cs := by
  cases unclosed with
  | comment => exact ⟨'!', .inl rfl, _, rfl⟩
  | declaration opens => exact ⟨_, opens.mark, _, rfl⟩

/-- Where a token is skipped, a `!` or a `?` follows a `<`. -/
theorem Cuts.exists_mark {offset : Nat} {cs : List Char} {pieces : List Piece}
    (cut : Cuts offset cs pieces) :
    ∀ piece ∈ pieces, piece.token.isSkipped = true →
      ∃ mark, (mark = '!' ∨ mark = '?') ∧ ['<', mark] <:+: cs := by
  induction cut with
  | done => exact fun _ h => (List.not_mem_nil h).elim
  | @token offset own rest token pieces spells ends behind ih =>
    refine List.forall_mem_cons.mpr ⟨fun skipped => ?_, fun piece member skipped => ?_⟩
    · obtain ⟨mark, known, starts⟩ := spells.exists_mark skipped
      exact ⟨mark, known, starts.isInfix.trans (List.prefix_append own rest).isInfix⟩
    · obtain ⟨mark, known, inside⟩ := ih piece member skipped
      exact ⟨mark, known, inside.trans (List.suffix_append own rest).isInfix⟩
  | unclosed unclosed =>
    intro _ _ _
    obtain ⟨mark, known, starts⟩ := unclosed.exists_mark
    exact ⟨mark, known, starts.isInfix⟩
  | cutOff =>
    intro piece member skipped
    rw [List.mem_singleton.mp member] at skipped
    cases skipped

end NoteMarkup
