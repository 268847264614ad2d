import Mathlib.Data.List.TakeWhile
import NoteMarkup.Proofs.Token.Locality

/-!
# How tokens are spelled

What the characters of a token look like, said without the functions that read them; only the
inside of an opening tag is left to its reader.  `tokenInFront_iff_readToken` and
`cutOff_iff_readToken` say that this is what is read.
-/

namespace NoteMarkup

/-! ## Spellings -/

def commentEnd : List Char := ['-', '-', '>']

/-- What follows the `<` of a declaration: a `?`, or a `!` that starts no comment. -/
def OpensDeclaration (mark : Char) (body : List Char) : Prop :=
  mark = '?' ∨ mark = '!' ∧ ¬ ['-', '-'] <+: body

def Token.isText : Token → Bool
  | .text _ => true
  | _ => false

/-- The characters are those of one token, from its first to its last. -/
inductive Spells : List Char → Token → Prop where
  /-- Nowhere inside a text does markup start. -/
  | text {run : List Char} (nonempty : run ≠ [])
      (plain : ∀ rest, rest <:+ run → startsMarkup rest = false) : Spells run (.text (valueOf run))
  /-- A comment goes up to the first `-->`. -/
  | comment {body : List Char} (inside : ¬ commentEnd <:+: body ++ ['-', '-']) :
      Spells ('<' :: '!' :: '-' :: '-' :: (body ++ commentEnd)) .comment
  /-- A declaration goes up to the first `>`. -/
  | declaration {mark : Char} {body : List Char} (opens : OpensDeclaration mark body)
      (inside : '>' ∉ body) : Spells ('<' :: mark :: (body ++ ['>'])) .declaration
  /-- A closing tag goes up to the first `>`, and what stands between that and its name does not
      count. -/
  | closing {name skipped : List Char} (named : ∀ c ∈ name, isNameChar c = true)
      (ends : ∀ c ∈ skipped.head?, isNameChar c = false) (inside : '>' ∉ skipped) :
      Spells ('<' :: '/' :: (name ++ (skipped ++ ['>']))) (.closing (nameOf name))
  /-- An opening tag starts with a letter and is read from its characters as a whole. -/
  | opening {c : Char} {cs : List Char} {tag : String} {attributes : List (String × String)}
      {selfClosing : Bool} (letter : c.isAlpha = true)
      (reads : readOpening (c :: cs) = .ok (.opening tag attributes selfClosing, [])) :
      Spells ('<' :: c :: cs) (.opening tag attributes selfClosing)

/-- The characters start a token that is skipped, and the input ends before the token does. -/
inductive Unclosed : List Char → Token → Prop where
  | comment {body : List Char} (inside : ¬ commentEnd <:+: body) :
      Unclosed ('<' :: '!' :: '-' :: '-' :: body) .comment
  | declaration {mark : Char} {body : List Char} (opens : OpensDeclaration mark body)
      (inside : '>' ∉ body) : Unclosed ('<' :: mark :: body) .declaration

/-- The characters start a tag, and the input ends before the tag does. -/
inductive CutOff : List Char → Construct → Prop where
  | closing {cs : List Char} (inside : '>' ∉ cs) : CutOff ('<' :: '/' :: cs) .closingTag
  | opening {c : Char} {cs : List Char} {construct : Construct} (letter : c.isAlpha = true)
      (reads : readOpening (c :: cs) = .error construct) : CutOff ('<' :: c :: cs) construct

/-- The characters start with the token, and `rest` is what follows it: the token is there as a
    whole, up to where a text ends, or it goes on to the end of the input. -/
inductive TokenInFront : List Char → Token → List Char → Prop where
  | whole {own rest : List Char} {token : Token} (spells : Spells own token)
      (ends : token.isText = true → EndsText rest) : TokenInFront (own ++ rest) token rest
  | unclosed {cs : List Char} {token : Token} (unclosed : Unclosed cs token) :
      TokenInFront cs token []

theorem bne_of_not_mem {cs : List Char} {stop : Char} (h : stop ∉ cs) :
    ∀ c ∈ cs, (c != stop) = true := by
  intro c member
  refine bne_iff_ne.mpr ?_
  rintro rfl
  exact h member

theorem dropWhile_eq_nil_of_not_mem {cs : List Char} {stop : Char} (h : stop ∉ cs) :
    cs.dropWhile (· != stop) = [] :=
  List.dropWhile_eq_nil_iff.mpr (bne_of_not_mem h)

/-- The name of a closing tag ends in front of what is skipped, or in front of the `>`. -/
theorem readClosing_append {name skipped : List Char} (named : ∀ c ∈ name, isNameChar c = true)
    (ends : ∀ c ∈ skipped.head?, isNameChar c = false) (inside : '>' ∉ skipped)
    (rest : List Char) :
    readClosing (name ++ (skipped ++ '>' :: rest)) = .ok (.closing (nameOf name), rest) := by
  obtain ⟨stop, behind, shape, stops⟩ : ∃ stop behind,
      skipped ++ '>' :: rest = stop :: behind ∧ isNameChar stop = false := by
    cases skipped with
    | nil => exact ⟨'>', rest, rfl, rfl⟩
    | cons c skipped => exact ⟨c, skipped ++ '>' :: rest, rfl, ends c rfl⟩
  rw [readClosing, shape, takeWhile_append_cons named stops, dropWhile_append_cons named stops,
    ← shape, dropWhile_append_cons (bne_of_not_mem inside) (by decide)]

/-- Up to the first `>` stand a name and what is skipped behind it. -/
theorem exists_name_append_of_mem {cs : List Char} (closed : '>' ∈ cs) :
    ∃ name skipped rest, cs = name ++ (skipped ++ '>' :: rest) ∧
      (∀ c ∈ name, isNameChar c = true) ∧ (∀ c ∈ skipped.head?, isNameChar c = false) ∧
      '>' ∉ skipped := by
  obtain ⟨run, rest, rfl, inside⟩ := List.eq_append_cons_of_mem closed
  refine ⟨run.takeWhile isNameChar, run.dropWhile isNameChar, rest, ?_, ?_, ?_, ?_⟩
  · rw [← List.append_assoc, List.takeWhile_append_dropWhile]
  · exact fun c hc => List.all_eq_true.mp List.all_takeWhile c hc
  · intro c first
    cases dropped : run.dropWhile isNameChar with
    | nil => simp [dropped] at first
    | cons stop behind =>
      rw [dropped, List.head?_cons, Option.mem_some_iff] at first
      rw [← first]
      exact (dropWhile_eq_cons dropped).choose_spec.2.2
  · exact fun member => inside ((List.dropWhile_sublist isNameChar).subset member)

theorem readClosing_eq_error {cs : List Char} (inside : '>' ∉ cs) :
    readClosing cs = .error .closingTag := by
  have behind : '>' ∉ cs.dropWhile isNameChar := fun member =>
    inside ((List.dropWhile_sublist isNameChar).subset member)
  rw [readClosing, dropWhile_eq_nil_of_not_mem behind]

/-! ## Comments and declarations -/

theorem afterComment_append {body : List Char} (inside : ¬ commentEnd <:+: body ++ ['-', '-'])
    (rest : List Char) : afterComment (body ++ (commentEnd ++ rest)) = rest := by
  induction body with
  | nil => rfl
  | cons c body ih =>
    rw [List.cons_append, List.infix_cons_iff, not_or] at inside
    have later : ∀ more, c = '-' → body ++ (commentEnd ++ rest) = '-' :: '>' :: more → False := by
      rintro more rfl equal
      apply inside.1
      match body, equal with
      | [], equal => cases equal
      | [d], equal => cases equal
      | d :: e :: body, equal =>
        simp only [List.cons_append, List.cons.injEq] at equal
        obtain ⟨rfl, rfl, -⟩ := equal
        exact ⟨body ++ ['-', '-'], rfl⟩
    rw [List.cons_append, afterComment.eq_2 _ _ later]
    exact ih inside.2

theorem afterComment_eq_nil {body : List Char} (inside : ¬ commentEnd <:+: body) :
    afterComment body = [] := by
  induction body with
  | nil => rfl
  | cons c body ih =>
    rw [List.infix_cons_iff, not_or] at inside
    have later : ∀ more, c = '-' → body = '-' :: '>' :: more → False := by
      rintro more rfl rfl
      exact inside.1 ⟨more, rfl⟩
    rw [afterComment.eq_2 _ _ later]
    exact ih inside.2

/-- A comment goes up to the first `-->`, or up to the end where there is none. -/
theorem afterComment_spec (cs : List Char) :
    (∃ body, cs = body ++ (commentEnd ++ afterComment cs) ∧
      ¬ commentEnd <:+: body ++ ['-', '-']) ∨
    (¬ commentEnd <:+: cs ∧ afterComment cs = []) := by
  fun_induction afterComment cs with
  | case1 cs => exact .inl ⟨[], rfl, by decide⟩
  | case2 c cs later ih =>
    have first : ¬ commentEnd <+: c :: cs := by
      rintro ⟨more, equal⟩
      simp only [commentEnd, List.cons_append, List.nil_append, List.cons.injEq] at equal
      exact later more equal.1.symm equal.2.symm
    obtain ⟨body, equal, inside⟩ | ⟨inside, none⟩ := ih
    · left
      refine ⟨c :: body, by rw [List.cons_append, ← equal], ?_⟩
      rw [List.cons_append, List.infix_cons_iff, not_or]
      refine ⟨fun starts => first (starts.trans ?_), inside⟩
      rw [equal]
      exact ⟨'>' :: afterComment cs, by simp [commentEnd]⟩
    · right
      rw [List.infix_cons_iff, not_or]
      exact ⟨⟨first, inside⟩, none⟩
  | case3 => exact .inr ⟨by decide, rfl⟩

theorem afterDeclaration_append {body : List Char} (inside : '>' ∉ body) (rest : List Char) :
    afterDeclaration (body ++ '>' :: rest) = rest := by
  rw [afterDeclaration, dropWhile_append_cons (bne_of_not_mem inside) (by decide), List.tail_cons]

theorem OpensDeclaration.append {mark : Char} {body : List Char} (opens : OpensDeclaration mark body)
    (rest : List Char) : OpensDeclaration mark (body ++ '>' :: rest) := by
  obtain rfl | ⟨rfl, plain⟩ := opens
  · exact .inl rfl
  · refine .inr ⟨rfl, fun starts => plain ?_⟩
    match body, starts with
    | d :: e :: body, starts =>
      obtain ⟨more, equal⟩ := starts
      simp only [List.cons_append, List.cons.injEq] at equal
      obtain ⟨rfl, rfl, -⟩ := equal
      exact ⟨body, rfl⟩

theorem OpensDeclaration.of_append {mark : Char} {body rest : List Char}
    (opens : OpensDeclaration mark (body ++ rest)) : OpensDeclaration mark body :=
  opens.imp_right fun plain =>
    ⟨plain.1, fun starts => plain.2 (starts.trans (List.prefix_append body rest))⟩

theorem readToken_of_opensDeclaration {mark : Char} {cs : List Char}
    (opens : OpensDeclaration mark cs) :
    readToken ('<' :: mark :: cs) = .ok (.declaration, afterDeclaration cs) := by
  obtain rfl | ⟨rfl, plain⟩ := opens
  · rw [readToken]
  · unfold readToken
    split
    case h_2 heq =>
      cases heq
      exact absurd ⟨_, rfl⟩ plain
    case h_5 other _ heq => exact absurd (List.cons.inj (List.cons.inj heq).2).1.symm other
    all_goals simp_all

theorem startsMarkup_append {own : List Char} (h : startsMarkup own = true) (rest : List Char) :
    startsMarkup (own ++ rest) = true := by
  unfold startsMarkup at h
  split at h
  · exact h
  · cases h

theorem startsMarkup_cons_cons (c d : Char) (cs : List Char) :
    startsMarkup (c :: d :: cs) =
      (c == '<' && (d.isAlpha || d == '/' || d == '!' || d == '?')) := by
  by_cases bracket : c = '<'
  · subst bracket
    simp [startsMarkup]
  · rw [startsMarkup_cons_of_ne bracket, beq_eq_false_iff_ne.mpr bracket, Bool.false_and]

theorem exists_of_startsMarkup {cs : List Char} (h : startsMarkup cs = true) :
    ∃ mark rest, cs = '<' :: mark :: rest ∧
      (mark.isAlpha = true ∨ mark = '/' ∨ mark = '!' ∨ mark = '?') := by
  unfold startsMarkup at h
  split at h
  · simp only [Bool.or_eq_true, beq_iff_eq, or_assoc] at h
    exact ⟨_, _, rfl, h⟩
  · cases h

/-- In front of what ends a text, markup starts at no character of the text. -/
theorem startsMarkup_append_of_endsText {own rest : List Char} (nonempty : own ≠ [])
    (plain : startsMarkup own = false) (ends : EndsText rest) :
    startsMarkup (own ++ rest) = false := by
  match own, nonempty with
  | [c], _ =>
    obtain rfl | starts := ends
    · exact plain
    · obtain ⟨mark, behind, rfl, -⟩ := exists_of_startsMarkup starts
      rw [List.singleton_append, startsMarkup_cons_cons]
      simp
  | c :: d :: own, _ =>
    rw [startsMarkup_cons_cons] at plain
    rwa [List.cons_append, List.cons_append, startsMarkup_cons_cons]

/-- A text goes on to where markup starts, or to the end. -/
theorem spanText_append_of_plain {run rest : List Char}
    (plain : ∀ own, own <:+ run → startsMarkup own = false) (ends : EndsText rest) :
    spanText (run ++ rest) = (run, rest) := by
  induction run with
  | nil => exact spanText_append (fun _ h => (List.not_mem_nil h).elim) ends
  | cons c run ih =>
    have own := startsMarkup_append_of_endsText (List.cons_ne_nil c run)
      (plain _ List.suffix_rfl) ends
    rw [List.cons_append] at own ⊢
    rw [spanText, if_neg (by simp [own]), ih fun own h => plain own (h.trans (List.suffix_cons _ _))]

theorem spanText_spec (cs : List Char) :
    cs = (spanText cs).1 ++ (spanText cs).2 ∧
      (∀ own, own <:+ (spanText cs).1 → startsMarkup own = false) ∧
      EndsText (spanText cs).2 := by
  have none : ∀ own : List Char, own <:+ [] → startsMarkup own = false := by
    intro own h
    rw [List.suffix_nil.mp h]
    rfl
  fun_induction spanText cs with
  | case1 => exact ⟨rfl, none, .inl rfl⟩
  | case2 c cs starts => exact ⟨rfl, none, .inr starts⟩
  | case3 c cs starts text rest split ih =>
    simp only [split] at ih
    obtain ⟨rfl, plain, ends⟩ := ih
    refine ⟨rfl, fun own h => ?_, ends⟩
    obtain rfl | h := List.suffix_cons_iff.mp h
    · rw [Bool.eq_false_iff]
      exact fun early => starts (startsMarkup_append early rest)
    · exact plain own h

/-! ## Whole tokens -/

/-- A token is read off its characters, if a text does not go on behind them. -/
theorem readToken_of_spells {own rest : List Char} {token : Token} (spells : Spells own token)
    (ends : token.isText = true → EndsText rest) : readToken (own ++ rest) = .ok (token, rest) := by
  cases spells with
  | text nonempty plain =>
    have behind := ends rfl
    have starts := startsMarkup_append_of_endsText nonempty (plain _ List.suffix_rfl) behind
    rw [readToken_of_startsMarkup_eq_false starts, readText, spanText_append_of_plain plain behind]
  | @comment body inside =>
    have shape : '<' :: '!' :: '-' :: '-' :: (body ++ commentEnd) ++ rest =
        '<' :: '!' :: '-' :: '-' :: (body ++ (commentEnd ++ rest)) := by simp
    rw [shape, readToken, afterComment_append inside]
  | @declaration mark body opens inside =>
    have shape : '<' :: mark :: (body ++ ['>']) ++ rest = '<' :: mark :: (body ++ '>' :: rest) := by
      simp
    rw [shape, readToken_of_opensDeclaration (opens.append rest), afterDeclaration_append inside]
  | @closing name skipped named stops inside =>
    have shape : '<' :: '/' :: (name ++ (skipped ++ ['>'])) ++ rest =
        '<' :: '/' :: (name ++ (skipped ++ '>' :: rest)) := by simp
    rw [shape, readToken, readClosing_append named stops inside]
  | @opening c cs _ _ _ letter reads =>
    obtain ⟨chars, -, equal, readsAll⟩ := readOpening_local reads
    rw [List.append_nil] at equal
    subst equal
    rw [List.cons_append, List.cons_append, readToken_of_isAlpha letter]
    exact readsAll rest

theorem tokenInFront_of_readOpening {c : Char} {cs rest : List Char} {token : Token}
    (letter : c.isAlpha = true) (h : readOpening (c :: cs) = .ok (token, rest)) :
    TokenInFront ('<' :: c :: cs) token rest := by
  obtain ⟨attributes, selfClosing, -, rfl⟩ := readOpening_eq_ok h
  obtain ⟨own, nonempty, equal, reads⟩ := readOpening_local h
  obtain ⟨d, own, rfl⟩ := List.exists_cons_of_ne_nil nonempty
  obtain ⟨rfl, rfl⟩ := List.cons.inj equal
  have readsOwn := reads []
  rw [List.append_nil] at readsOwn
  exact .whole (.opening letter readsOwn) (fun text => Bool.noConfusion text)

theorem tokenInFront_of_readClosing {cs rest : List Char} {token : Token}
    (h : readClosing cs = .ok (token, rest)) : TokenInFront ('<' :: '/' :: cs) token rest := by
  by_cases closed : '>' ∈ cs
  · obtain ⟨name, skipped, behind, rfl, named, stops, inside⟩ := exists_name_append_of_mem closed
    rw [readClosing_append named stops inside] at h
    cases h
    have whole : TokenInFront (_ ++ rest) _ rest :=
      .whole (.closing named stops inside) (fun text => Bool.noConfusion text)
    simpa using whole
  · rw [readClosing_eq_error closed] at h
    cases h

theorem tokenInFront_comment (cs : List Char) :
    TokenInFront ('<' :: '!' :: '-' :: '-' :: cs) .comment (afterComment cs) := by
  obtain ⟨body, equal, inside⟩ | ⟨inside, none⟩ := afterComment_spec cs
  · have whole : TokenInFront (_ ++ afterComment cs) _ (afterComment cs) :=
      .whole (.comment inside) (fun text => Bool.noConfusion text)
    rw [List.cons_append, List.cons_append, List.cons_append, List.cons_append, List.append_assoc,
      ← equal] at whole
    exact whole
  · rw [none]
    exact .unclosed (.comment inside)

theorem tokenInFront_declaration {mark : Char} {cs : List Char} (opens : OpensDeclaration mark cs) :
    TokenInFront ('<' :: mark :: cs) .declaration (afterDeclaration cs) := by
  by_cases closed : '>' ∈ cs
  · obtain ⟨body, behind, rfl, inside⟩ := List.eq_append_cons_of_mem closed
    rw [afterDeclaration_append inside]
    have whole : TokenInFront (_ ++ behind) _ behind :=
      .whole (.declaration opens.of_append inside) (fun text => Bool.noConfusion text)
    simpa using whole
  · rw [afterDeclaration, dropWhile_eq_nil_of_not_mem closed, List.tail_nil]
    exact .unclosed (.declaration opens closed)

theorem tokenInFront_text {cs : List Char} (nonempty : cs ≠ []) (plain : startsMarkup cs = false) :
    TokenInFront cs (readText cs).1 (readText cs).2 := by
  obtain ⟨equal, inner, ends⟩ := spanText_spec cs
  have taken : (spanText cs).1 ≠ [] := by
    obtain ⟨c, cs, rfl⟩ := List.exists_cons_of_ne_nil nonempty
    rw [spanText, if_neg (by simp [plain])]
    exact List.cons_ne_nil _ _
  have whole := TokenInFront.whole (.text taken inner) (fun _ => ends)
  rw [← equal] at whole
  exact whole

theorem TokenInFront.readToken {cs rest : List Char} {token : Token}
    (front : TokenInFront cs token rest) : readToken cs = .ok (token, rest) := by
  cases front with
  | whole spells ends => exact readToken_of_spells spells ends
  | unclosed unclosed =>
    cases unclosed with
    | comment inside => rw [NoteMarkup.readToken, afterComment_eq_nil inside]
    | declaration opens inside =>
      rw [readToken_of_opensDeclaration opens, afterDeclaration,
        dropWhile_eq_nil_of_not_mem inside, List.tail_nil]

/-- The four ways in which markup starts, each with its reader. -/
theorem readToken_of_startsMarkup {cs : List Char} (starts : startsMarkup cs = true) :
    (∃ c rest, cs = '<' :: c :: rest ∧ c.isAlpha = true ∧ readToken cs = readOpening (c :: rest)) ∨
    (∃ rest, cs = '<' :: '/' :: rest ∧ readToken cs = readClosing rest) ∨
    (∃ rest, cs = '<' :: '!' :: '-' :: '-' :: rest ∧
      readToken cs = .ok (.comment, afterComment rest)) ∨
    ∃ mark rest, cs = '<' :: mark :: rest ∧ OpensDeclaration mark rest ∧
      readToken cs = .ok (.declaration, afterDeclaration rest) := by
  obtain ⟨mark, rest, rfl, letter | rfl | rfl | rfl⟩ := exists_of_startsMarkup starts
  · exact .inl ⟨mark, rest, rfl, letter, readToken_of_isAlpha letter rest⟩
  · exact .inr (.inl ⟨rest, rfl, by rw [readToken]⟩)
  · by_cases comment : ['-', '-'] <+: rest
    · obtain ⟨body, rfl⟩ := comment
      exact .inr (.inr (.inl ⟨body, rfl, by simp [readToken]⟩))
    · have opens : OpensDeclaration '!' rest := .inr ⟨rfl, comment⟩
      exact .inr (.inr (.inr ⟨'!', rest, rfl, opens, readToken_of_opensDeclaration opens⟩))
  · have opens : OpensDeclaration '?' rest := .inl rfl
    exact .inr (.inr (.inr ⟨'?', rest, rfl, opens, readToken_of_opensDeclaration opens⟩))

/-- A token is read exactly if it stands in front. -/
theorem tokenInFront_iff_readToken {cs rest : List Char} {token : Token} (nonempty : cs ≠ []) :
    TokenInFront cs token rest ↔ readToken cs = .ok (token, rest) := by
  refine ⟨TokenInFront.readToken, fun h => ?_⟩
  cases starts : startsMarkup cs with
  | false =>
    rw [readToken_of_startsMarkup_eq_false starts, Except.ok.injEq] at h
    have text := tokenInFront_text nonempty starts
    rwa [h] at text
  | true =>
    obtain ⟨c, behind, rfl, letter, reads⟩ | ⟨behind, rfl, reads⟩ | ⟨behind, rfl, reads⟩ |
      ⟨mark, behind, rfl, opens, reads⟩ := readToken_of_startsMarkup starts
    · exact tokenInFront_of_readOpening letter (reads.symm.trans h)
    · exact tokenInFront_of_readClosing (reads.symm.trans h)
    · cases reads.symm.trans h
      exact tokenInFront_comment behind
    · cases reads.symm.trans h
      exact tokenInFront_declaration opens

/-- Reading a token fails exactly at a tag that the end of the input cuts off. -/
theorem cutOff_iff_readToken {cs : List Char} {construct : Construct} :
    CutOff cs construct ↔ readToken cs = .error construct := by
  constructor
  · rintro (inside | ⟨letter, reads⟩)
    · rw [readToken, readClosing_eq_error inside]
    · rw [readToken_of_isAlpha letter, reads]
  · intro h
    cases starts : startsMarkup cs with
    | false => cases (readToken_of_startsMarkup_eq_false starts).symm.trans h
    | true =>
      obtain ⟨c, behind, rfl, letter, reads⟩ | ⟨behind, rfl, reads⟩ | ⟨behind, rfl, reads⟩ |
        ⟨mark, behind, rfl, opens, reads⟩ := readToken_of_startsMarkup starts
      · exact .opening letter (reads.symm.trans h)
      · by_cases closed : '>' ∈ behind
        · obtain ⟨name, skipped, rest, rfl, named, stops, inside⟩ :=
            exists_name_append_of_mem closed
          cases (readClosing_append named stops inside rest).symm.trans (reads.symm.trans h)
        · cases (readClosing_eq_error closed).symm.trans (reads.symm.trans h)
          exact .closing closed
      · cases reads.symm.trans h
      · cases reads.symm.trans h

/-- A token is a text exactly if no markup starts with it. -/
theorem isText_of_readToken {cs rest : List Char} {token : Token}
    (h : readToken cs = .ok (token, rest)) : token.isText = !startsMarkup cs := by
  cases starts : startsMarkup cs with
  | false =>
    rw [readToken_of_startsMarkup_eq_false starts] at h
    cases h
    rfl
  | true =>
    obtain ⟨c, behind, rfl, -, reads⟩ | ⟨behind, rfl, reads⟩ | ⟨behind, rfl, reads⟩ |
      ⟨mark, behind, rfl, -, reads⟩ := readToken_of_startsMarkup starts
    · obtain ⟨attributes, selfClosing, -, rfl⟩ := readOpening_eq_ok (reads.symm.trans h)
      rfl
    · rw [reads, readClosing] at h
      split at h
      · cases h
      · cases h
        rfl
    all_goals
      cases reads.symm.trans h
      rfl

theorem CutOff.startsMarkup {cs : List Char} {construct : Construct} (cut : CutOff cs construct) :
    startsMarkup cs = true := by
  cases cut with
  | closing => simp [NoteMarkup.startsMarkup]
  | opening letter => simp [NoteMarkup.startsMarkup, letter]

end NoteMarkup
