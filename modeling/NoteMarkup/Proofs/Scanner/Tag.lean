import NoteMarkup.Proofs.Scanner.Reading

/-!
# Reading tags in place

A tag is read in place up to its end, or up to the end of the text where it is cut off.  What is
done for a token is a step of the machine (`reaches_token`).
-/

namespace NoteMarkup

namespace Scanner

/-- Where the reading stands behind a token: in front of the next sibling, or where something is
    wrong. -/
def afterToken (chars source : List Char) (tree : Machine) :
    Except Construct (Token × List Char) → Scanner
  | .error inside =>
    inFront chars [] tree (.returned (some (.unexpectedEnd inside chars.length)))
  | .ok (token, rest) =>
    match tree.step ⟨offsetOf chars.length source, token⟩ with
    | .ok next => inFront chars rest next .siblings
    | .error e => inFront chars rest tree (.returned (some e))

section

variable {chars source rest : List Char} {tree : Machine}

theorem step_returned {own : OpenElement} {outer : List OpenElement}
    (opened : tree.stack = own :: outer) (error? : Option ParseError) :
    (inFront chars source tree (.returned error?)).step chars =
      .state (inFront chars source tree.pop (.behindElement error?)) := by
  have depth : tree.pop.stack.length = tree.stack.length - 1 := by
    simp [Machine.pop, opened, Machine.length_stack_add]
  rw [step, point_inFront]
  simp only [stepReturned, inFront, opened, depth]
  exact if_neg (Nat.succ_ne_zero _)

theorem fail_inFront (inside : Construct) (point : Point) :
    (inFront chars [] tree point).fail (.unexpectedEnd inside (inFront chars [] tree point).pos) =
      .state (afterToken chars source tree (.error inside)) := rfl

theorem stepClosed_inFront {offset : Nat} {found : String} {rest : List Char} {point : Point}
    (suffix : '>' :: rest <:+ chars) :
    (inFront chars ('>' :: rest) tree point).stepClosed offset found =
      .state (inFront chars rest tree (.returned (
        if tree.stack.head?.map OpenElement.tag = some found then none
        else some (.unmatchedClosingTag found (tree.stack.head?.map OpenElement.tag) offset)))) :=
  goto_inFront ['>'] suffix _

/-- A closing tag that is its own closes the innermost open element. -/
theorem reaches_closed (found : String) (rest : List Char) :
    Reaches chars (inFront chars rest tree (.returned (
        if tree.stack.head?.map OpenElement.tag = some found then none
        else some (.unmatchedClosingTag found (tree.stack.head?.map OpenElement.tag)
          (offsetOf chars.length source)))))
      (afterToken chars source tree (.ok (.closing found, rest))) := by
  rw [afterToken]
  by_cases own : tree.stack.head?.map OpenElement.tag = some found
  · rw [if_pos own, Machine.step_closing own]
    cases opened : tree.stack with
    | nil => simp [opened] at own
    | cons innermost outer => exact .single (step_returned opened none)
  · rw [if_neg own, Machine.step_closing_of_ne own]
    exact .refl

theorem reaches_closing {cs : List Char} (suffix : '<' :: '/' :: cs <:+ chars) :
    Reaches chars (inFront chars ('<' :: '/' :: cs) tree .siblings)
      (afterToken chars ('<' :: '/' :: cs) tree (readClosing cs)) := by
  have named : cs <:+ chars := (List.suffix_append ['<', '/'] cs).trans suffix
  have skipped := (List.dropWhile_suffix isNameChar).trans named
  have last := (List.dropWhile_suffix (· != '>')).trans skipped
  refine .head (step_siblings_closing suffix) ?_
  refine .trans
    (reaches_dropWhile (fun _ => rfl) named ((slice_dropWhile rfl named _).trans rfl)) ?_
  rw [readClosing]
  generalize nameOf (cs.takeWhile isNameChar) = found
  obtain ends | ⟨rest, ends⟩ := dropWhile_bne_eq '>' (cs.dropWhile isNameChar)
  · refine reaches_dropWhile (fun _ => rfl) skipped ?_
    rw [ends] at last ⊢
    rw [if_pos ((length_le_pos_iff last).mpr rfl)]
    exact fail_inFront .closingTag _
  · rw [ends] at last ⊢
    refine .trans (reaches_dropWhile (fun _ => rfl) skipped ?_) (reaches_closed found rest)
    rw [ends, if_neg (mt (length_le_pos_iff last).mp (List.cons_ne_nil _ _))]
    exact stepClosed_inFront last

/-! ## Attributes -/

/-- Where the reading stands behind a part of an opening tag, which has been read up to `rest` or
    is cut off. -/
def afterPart {α : Type} (chars : List Char) (tree : Machine) (next : α → Point) :
    Except Construct (α × List Char) → Scanner
  | .error inside => inFront chars [] tree (.returned (some (.unexpectedEnd inside chars.length)))
  | .ok (part, rest) => inFront chars rest tree (next part)

variable {own : OpenElement} {name : String}

theorem reaches_bareValue (suffix : source <:+ chars) :
    Reaches chars
      (inFront chars source tree (.bareValue own name (offsetOf chars.length source)))
      (inFront chars (source.dropWhile isBareValueChar) tree
        (Point.behindAttribute own (name, valueOf (source.takeWhile isBareValueChar)))) :=
  reaches_dropWhile (fun _ => rfl) suffix ((slice_dropWhile rfl suffix _).trans rfl)

theorem reaches_quotedValue {quote : Char} (suffix : source <:+ chars) :
    Reaches chars
      (inFront chars source tree (.quotedValue own name quote (offsetOf chars.length source)))
      (afterPart chars tree (fun value => Point.behindAttribute own (name, value))
        (match source.dropWhile (· != quote) with
          | [] => .error .attributeValue
          | _ :: rest => .ok (valueOf (source.takeWhile (· != quote)), rest))) := by
  have last := (List.dropWhile_suffix (· != quote)).trans suffix
  refine reaches_dropWhile (fun _ => rfl) suffix ?_
  obtain ends | ⟨rest, ends⟩ := dropWhile_bne_eq quote source
  · rw [ends] at last ⊢
    rw [if_pos ((length_le_pos_iff last).mpr rfl)]
    rfl
  · rw [ends] at last ⊢
    rw [if_neg (mt (length_le_pos_iff last).mp (List.cons_ne_nil _ _)), slice_dropWhile ends suffix]
    exact goto_inFront [quote] last _

theorem reaches_value (tree : Machine) (own : OpenElement) (name : String)
    (suffix : source <:+ chars) :
    Reaches chars (inFront chars source tree (.beforeValue own name))
      (afterPart chars tree (fun value => Point.behindAttribute own (name, value))
        (readValue (Text.trimLeft source))) := by
  have behind := (List.dropWhile_suffix Text.isBlank).trans suffix
  rw [Text.trimLeft]
  generalize trimmed : source.dropWhile Text.isBlank = value at behind
  cases value with
  | nil =>
    refine .trans (reaches_dropWhile (fun _ => rfl) suffix ?_) (reaches_bareValue behind)
    rw [trimmed, peek_inFront behind]
    rfl
  | cons c rest =>
    by_cases quote : isQuote c = true
    · have inside := (List.suffix_cons c rest).trans behind
      rw [readValue_of_isQuote quote]
      refine .trans (reaches_dropWhile (fun _ => rfl) suffix ?_) (reaches_quotedValue inside)
      rw [trimmed, peek_inFront behind, List.head?_cons, Option.filter_some_pos quote,
        ← offsetOf_append_add [c] behind]
      exact goto_inFront [c] behind _
    · rw [readValue_of_not_isQuote quote]
      refine .trans (reaches_dropWhile (fun _ => rfl) suffix ?_) (reaches_bareValue behind)
      rw [trimmed, peek_inFront behind, List.head?_cons,
        Option.filter_some_neg (Bool.eq_false_iff.mpr quote)]
      rfl

theorem reaches_behindName (suffix : source <:+ chars) :
    Reaches chars (inFront chars source tree (.behindName own name))
      (afterPart chars tree (Point.behindAttribute own)
        (match Text.trimLeft source with
          | '=' :: rest => do
            let (value, rest) ← readValue (Text.trimLeft rest)
            return ((name, value), rest)
          | rest => .ok ((name, ""), rest))) := by
  have behind := (List.dropWhile_suffix Text.isBlank).trans suffix
  rw [Text.trimLeft]
  generalize trimmed : source.dropWhile Text.isBlank = last at behind
  split
  · rename_i rest
    have found := reaches_value tree own name ((List.suffix_cons '=' rest).trans behind)
    refine .trans (reaches_dropWhile (fun _ => rfl) suffix ?_) (?_ : Reaches chars
      (inFront chars rest tree (.beforeValue own name)) _)
    · rw [trimmed, peek_inFront behind]
      exact goto_inFront ['='] behind _
    · cases reads : readValue (Text.trimLeft rest) with
      | error inside | ok result =>
        rw [reads] at found
        exact found
  · rename_i other
    refine reaches_dropWhile (fun _ => rfl) suffix ?_
    rw [trimmed, peek_inFront behind]
    refine if_neg fun equals => ?_
    obtain ⟨rest, rfl⟩ := List.head?_eq_some_iff.mp (beq_iff_eq.mp equals)
    exact other rest rfl

theorem suffix_of_readValue {cs rest : List Char} {value : String}
    (reads : readValue cs = .ok (value, rest)) : rest <:+ cs := by
  cases cs with
  | nil =>
    cases reads
    exact List.suffix_rfl
  | cons c cs =>
    by_cases quote : isQuote c = true
    · rw [readValue_of_isQuote quote] at reads
      split at reads
      · cases reads
      · rename_i last behind dropped
        cases reads
        have inside := List.dropWhile_suffix (l := cs) (· != c)
        rw [dropped] at inside
        exact ((List.suffix_cons last rest).trans inside).trans (List.suffix_cons c cs)
    · rw [readValue_of_not_isQuote quote] at reads
      cases reads
      exact List.dropWhile_suffix _

theorem suffix_of_readAttribute {cs rest : List Char} {attr : String × String}
    (reads : readAttribute cs = .ok (attr, rest)) : rest <:+ cs := by
  have behind := (List.dropWhile_suffix (l := cs.dropWhile isAttributeNameChar) Text.isBlank).trans
    (List.dropWhile_suffix isAttributeNameChar)
  rw [← Text.trimLeft] at behind
  rw [readAttribute] at reads
  split at reads
  · rename_i more trimmed
    rw [trimmed] at behind
    cases value : readValue (Text.trimLeft more) with
    | error inside =>
      rw [value] at reads
      cases reads
    | ok result =>
      rw [value] at reads
      cases reads
      exact (suffix_of_readValue value).trans
        ((List.dropWhile_suffix Text.isBlank).trans ((List.suffix_cons '=' more).trans behind))
  · cases reads
    exact behind

/-- An attribute is read from its name on. -/
theorem reaches_attribute (tree : Machine) (own : OpenElement) {c : Char} {cs : List Char}
    (suffix : c :: cs <:+ chars) (named : isAttributeNameChar c = true) :
    Reaches chars
      (inFront chars (c :: cs) tree (.attributeName own (offsetOf chars.length (c :: cs))))
      (afterPart chars tree (Point.behindAttribute own) (readAttribute (c :: cs))) := by
  have behind := (List.dropWhile_suffix isAttributeNameChar).trans suffix
  refine .trans (reaches_dropWhile (fun _ => rfl) suffix ?_) (reaches_behindName behind)
  refine (slice_dropWhile rfl suffix _).trans ?_
  rw [List.takeWhile_cons_of_pos named]
  rfl

/-! ## Opening tags -/

def afterTag (chars : List Char) (tree : Machine) (own : OpenElement) :
    Except Construct (List (String × String) × Bool × List Char) → Scanner
  | .error inside => inFront chars [] tree (.returned (some (.unexpectedEnd inside chars.length)))
  | .ok (attributes, selfClosing, rest) =>
    inFront chars rest tree (.opened { own with attributes } selfClosing)

/-- Behind the blanks in front of it, what follows in a tag is looked at. -/
theorem reaches_inTag (suffix : source <:+ chars) {t : Scanner}
    (ends : (inFront chars (Text.trimLeft source) tree (.beforeName own)).stepInTag chars own =
      .state t) : Reaches chars (inFront chars source tree (.attributes own)) t :=
  .head (t := inFront chars source tree (.beforeName own)) rfl
    (reaches_dropWhile (fun _ => rfl) suffix ends)

theorem stepInTag_cons {c : Char} {rest : List Char} {point : Point}
    (suffix : c :: rest <:+ chars) :
    (inFront chars (c :: rest) tree point).stepInTag chars own =
      if c == '>' then (inFront chars (c :: rest) tree point).goto 1 (.opened own false)
      else if c == '/' && rest.head? == some '>' then
        (inFront chars (c :: rest) tree point).goto 2 (.opened own true)
      else
        .state (inFront chars (c :: rest) tree
          (.attributeName own (offsetOf chars.length (c :: rest)))) := by
  have next : (c :: rest)[1]? = rest.head? := by simp [List.head?_eq_getElem?]
  rw [stepInTag, peek_inFront suffix, peekNext_inFront suffix, next]
  rfl

/-- What neither ends the tag nor is a blank is read as an attribute. -/
theorem reaches_attributeName {c : Char} {rest : List Char} (suffix : source <:+ chars)
    (trimmed : Text.trimLeft source = c :: rest) (noClose : c = '>' → False)
    (noSelfClose : ∀ more, c = '/' → rest = '>' :: more → False) :
    Reaches chars (inFront chars source tree (.attributes own))
      (inFront chars (c :: rest) tree
        (.attributeName own (offsetOf chars.length (c :: rest)))) := by
  refine reaches_inTag suffix ?_
  have behind := (List.dropWhile_suffix Text.isBlank).trans suffix
  rw [← Text.trimLeft, trimmed] at behind
  rw [trimmed, stepInTag_cons behind, if_neg (by simpa using noClose), if_neg]
  simp only [Bool.and_eq_true, beq_iff_eq, not_and]
  intro slash close
  obtain ⟨more, rfl⟩ := List.head?_eq_some_iff.mp close
  exact noSelfClose more slash rfl

theorem reaches_attributes (tree : Machine) (tag : String) (offset : Nat)
    (attributes : List (String × String)) (suffix : source <:+ chars) :
    Reaches chars (inFront chars source tree (.attributes ⟨tag, attributes, offset, []⟩))
      (afterTag chars tree ⟨tag, [], offset, []⟩ (readAttributes attributes source)) := by
  have behind := (List.dropWhile_suffix Text.isBlank).trans suffix
  rw [← Text.trimLeft] at behind
  fun_induction readAttributes attributes source with
  | case1 attributes source trimmed =>
    rw [trimmed] at behind
    refine reaches_inTag suffix ?_
    rw [trimmed, stepInTag, peek_inFront behind]
    rfl
  | case2 attributes source rest trimmed =>
    rw [trimmed] at behind
    refine reaches_inTag suffix ?_
    rw [trimmed, stepInTag_cons behind]
    exact goto_inFront ['>'] behind _
  | case3 attributes source rest trimmed =>
    rw [trimmed] at behind
    refine reaches_inTag suffix ?_
    rw [trimmed, stepInTag_cons behind]
    exact goto_inFront ['/', '>'] behind _
  | case4 attributes source c rest noClose noSelfClose trimmed named inside reads =>
    rw [trimmed] at behind
    have found := reaches_attribute tree ⟨tag, attributes, offset, []⟩ behind named
    rw [reads] at found
    exact (reaches_attributeName suffix trimmed noClose noSelfClose).trans found
  | case5 attributes source c rest noClose noSelfClose trimmed named attr after reads ih =>
    rw [trimmed] at behind
    have found := reaches_attribute tree ⟨tag, attributes, offset, []⟩ behind named
    rw [reads] at found
    have left := (suffix_of_readAttribute reads).trans behind
    exact ((reaches_attributeName suffix trimmed noClose noSelfClose).trans found).trans
      (ih left ((List.dropWhile_suffix Text.isBlank).trans left))
  | case6 attributes source c rest noClose noSelfClose trimmed stray ih =>
    rw [trimmed] at behind
    have left := (List.suffix_cons c rest).trans behind
    refine ((reaches_attributeName suffix trimmed noClose noSelfClose).trans ?_).trans
      (ih left ((List.dropWhile_suffix Text.isBlank).trans left))
    refine reaches_dropWhile (fun _ => rfl) behind ((slice_dropWhile rfl behind _).trans ?_)
    rw [List.takeWhile_cons_of_neg stray, List.dropWhile_cons_of_neg stray]
    exact goto_inFront [c] behind _

/-- A tag that has been read does to the tree what its token does. -/
theorem step_opened (tag : String) (attributes : List (String × String)) (selfClosing : Bool) :
    (inFront chars rest tree (.opened ⟨tag, attributes, offsetOf chars.length source, []⟩
        selfClosing)).step chars =
      .state (afterToken chars source tree (.ok (.opening tag attributes selfClosing, rest))) := by
  rw [step, point_inFront, afterToken]
  dsimp only [stepOpened]
  by_cases childless : (selfClosing || isVoidTag tag) = true
  · rw [if_pos childless, Machine.step_childless childless]
    exact append_inFront _
  · rw [if_neg childless]
    have content := Bool.eq_false_iff.mpr childless
    by_cases deep : maxDepth ≤ tree.stack.length
    · rw [if_pos (by exact deep), Machine.step_opening_of_le content deep]
      rfl
    · rw [if_neg (by exact deep), Machine.step_opening content (Nat.lt_of_not_le deep)]
      rfl

theorem reaches_opening {c : Char} {cs : List Char} (suffix : '<' :: c :: cs <:+ chars)
    (letter : c.isAlpha = true) :
    Reaches chars (inFront chars ('<' :: c :: cs) tree .siblings)
      (afterToken chars ('<' :: c :: cs) tree (readOpening (c :: cs))) := by
  have named := (List.suffix_cons '<' (c :: cs)).trans suffix
  have behind := (List.dropWhile_suffix isNameChar).trans named
  refine .head (step_siblings_opening suffix letter) ?_
  refine .trans
    (reaches_dropWhile (fun _ => rfl) named ((slice_dropWhile rfl named _).trans rfl)) ?_
  have found := reaches_attributes tree (nameOf ((c :: cs).takeWhile isNameChar))
    (offsetOf chars.length ('<' :: c :: cs)) [] behind
  refine .trans found ?_
  rw [readOpening]
  cases reads : readAttributes [] ((c :: cs).dropWhile isNameChar) with
  | error inside => exact .refl
  | ok result => exact .single (step_opened _ _ _)

/-- From in front of a sibling the reading goes over the next token, and does what it says. -/
theorem reaches_token (nonempty : source ≠ []) (suffix : source <:+ chars) :
    Reaches chars (inFront chars source tree .siblings)
      (afterToken chars source tree (readToken source)) := by
  cases starts : startsMarkup source with
  | false =>
    obtain ⟨c, cs, rfl⟩ := List.exists_cons_of_ne_nil nonempty
    have spec := spanText_spec (c :: cs)
    have spans : spanText (c :: cs) = (c :: (spanText cs).1, (spanText cs).2) := by
      rw [spanText, if_neg (by simp [starts])]
    rw [readToken_of_startsMarkup_eq_false starts, readText, spans]
    rw [spans] at spec
    obtain ⟨equal, plain, ends⟩ := spec
    generalize (spanText cs).1 = run at equal plain ⊢
    generalize (spanText cs).2 = rest at equal ends ⊢
    rw [List.cons_append] at equal
    rw [equal] at suffix ⊢
    exact reaches_text suffix plain ends
  | true =>
    obtain ⟨c, rest, rfl, letter, reads⟩ | ⟨rest, rfl, reads⟩ | ⟨rest, rfl, reads⟩ |
      ⟨mark, rest, rfl, opens, reads⟩ := readToken_of_startsMarkup starts
    · rw [reads]
      exact reaches_opening suffix letter
    · rw [reads]
      exact reaches_closing suffix
    · rw [reads]
      refine .head (step_siblings_comment suffix) (reaches_comment ?_)
      exact (List.suffix_append ['<', '!', '-', '-'] rest).trans suffix
    · rw [reads]
      exact reaches_declaration suffix opens

end

end Scanner

end NoteMarkup
