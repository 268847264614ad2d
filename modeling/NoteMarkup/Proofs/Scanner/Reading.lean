import Mathlib.Logic.Relation
import NoteMarkup.Proofs.Scanner.Step
import NoteMarkup.Proofs.Text.Entity
import NoteMarkup.Proofs.Tree.Repair

/-!
# Reading in place what is not a tag

The cursor goes over the characters of the token that is in front of it.  `inFront` is the state in
front of the rest of a text, and `Reaches` goes from state to state.
-/

namespace NoteMarkup

namespace Scanner

/-- The state in front of `source`, where as many elements are counted as open as are open. -/
def inFront (chars source : List Char) (tree : Machine) (point : Point) : Scanner :=
  ⟨offsetOf chars.length source, tree.stack.length, tree, point⟩

def Reaches (chars : List Char) : Scanner → Scanner → Prop :=
  Relation.ReflTransGen fun s t => s.step chars = .state t

theorem Reaches.head {chars : List Char} {s t u : Scanner} (steps : s.step chars = .state t)
    (reaches : Reaches chars t u) : Reaches chars s u :=
  Relation.ReflTransGen.head steps reaches

theorem Reaches.trans {chars : List Char} {s t u : Scanner} (first : Reaches chars s t)
    (second : Reaches chars t u) : Reaches chars s u :=
  Relation.ReflTransGen.trans first second

section

variable {chars source : List Char} {tree : Machine} {point : Point}

theorem point_inFront : (inFront chars source tree point).point = point := rfl

theorem drop_offsetOf (suffix : source <:+ chars) :
    chars.drop (offsetOf chars.length source) = source :=
  (List.suffix_iff_eq_drop.mp suffix).symm

theorem peek_inFront (suffix : source <:+ chars) :
    (inFront chars source tree point).peek chars = source.head? := by
  rw [peek, inFront, ← List.head?_drop, drop_offsetOf suffix]

theorem peekNext_inFront (suffix : source <:+ chars) :
    (inFront chars source tree point).peekNext chars = source[1]? := by
  rw [peekNext, inFront, ← List.getElem?_drop, drop_offsetOf suffix]

theorem sees_inFront (suffix : source <:+ chars) (text : String) :
    (inFront chars source tree point).sees chars text = text.toList.isPrefixOf source := by
  rw [sees, inFront, drop_offsetOf suffix]

theorem length_le_pos_iff (suffix : source <:+ chars) :
    chars.length ≤ (inFront chars source tree point).pos ↔ source = [] := by
  have := suffix.length_le
  simp only [← List.length_eq_zero_iff, inFront, offsetOf]
  omega

theorem offsetOf_append_add (own : List Char) {rest : List Char} (suffix : own ++ rest <:+ chars) :
    offsetOf chars.length (own ++ rest) + own.length = offsetOf chars.length rest := by
  have := suffix.length_le
  rw [List.length_append] at this
  rw [offsetOf, offsetOf, List.length_append]
  omega

theorem goto_inFront (own : List Char) {rest : List Char} (suffix : own ++ rest <:+ chars)
    (next : Point) :
    (inFront chars (own ++ rest) tree point).goto own.length next =
      .state (inFront chars rest tree next) := by
  rw [goto, inFront, inFront, ← offsetOf_append_add own suffix]

theorem slice_inFront (run : List Char) {rest : List Char} (suffix : run ++ rest <:+ chars)
    (use : List Char → Next) :
    (inFront chars rest tree point).slice chars (offsetOf chars.length (run ++ rest)) use =
      use run := by
  obtain ⟨before, rfl⟩ := suffix
  have start : offsetOf (before ++ (run ++ rest)).length (run ++ rest) = before.length := by
    simp [offsetOf]
  have stop : offsetOf (before ++ (run ++ rest)).length rest = before.length + run.length := by
    simp [offsetOf]
    omega
  rw [slice, inFront]
  dsimp only
  rw [start, stop, if_pos ⟨by omega, by simp⟩]
  simp [List.take_append]

theorem append_inFront (nodes : List Node) :
    (inFront chars source tree point).append nodes =
      .state (inFront chars source (tree.add nodes) .siblings) := by
  rw [append, inFront, inFront, Machine.length_stack_add]

/-! ## Loops -/

/-- A loop goes over the characters that are accepted, up to the first that is not.  Whether one is
    accepted may depend on what follows it, as for character data. -/
theorem reaches_loop {accepts : List Char → Char → Bool} {behind : List Char → Next}
    (run : List Char) {rest : List Char} {t : Scanner}
    (loops : ∀ cs, (inFront chars cs tree point).step chars =
      (inFront chars cs tree point).loop chars (accepts cs) (behind cs))
    (suffix : run ++ rest <:+ chars)
    (inside : ∀ c own, c :: own <:+ run → accepts (c :: (own ++ rest)) c = true)
    (stops : ∀ c ∈ rest.head?, accepts rest c = false) (ends : behind rest = .state t) :
    Reaches chars (inFront chars (run ++ rest) tree point) t := by
  induction run with
  | nil =>
    refine .single ?_
    rw [loops, loop, peek_inFront suffix, List.nil_append]
    cases first : rest.head? with
    | none => exact ends
    | some c =>
      rw [Option.any_some, stops c first]
      exact ends
  | cons c run ih =>
    have goes := inside c run List.suffix_rfl
    refine .head ?_ (ih ((List.suffix_cons c _).trans suffix)
      fun d own h => inside d own (h.trans (List.suffix_cons c run)))
    rw [loops, loop, peek_inFront suffix, List.cons_append, List.head?_cons, Option.any_some,
      if_pos goes]
    exact goto_inFront [c] suffix point

theorem reaches_dropWhile {accepts : Char → Bool} {behind : List Char → Next} {t : Scanner}
    (loops : ∀ cs, (inFront chars cs tree point).step chars =
      (inFront chars cs tree point).loop chars accepts (behind cs))
    (suffix : source <:+ chars) (ends : behind (source.dropWhile accepts) = .state t) :
    Reaches chars (inFront chars source tree point) t := by
  have split := List.takeWhile_append_dropWhile (p := accepts) (l := source)
  have reaches :=
    reaches_loop (source.takeWhile accepts) loops (split.symm ▸ suffix) ?_ ?_ ends
  · rwa [split] at reaches
  · intro c own inside
    exact List.all_eq_true.mp List.all_takeWhile c (inside.subset List.mem_cons_self)
  · intro c first
    simpa [Option.mem_def.mp first] using List.head?_dropWhile_not accepts source

/-- Behind a loop the characters are taken over which it went. -/
theorem slice_dropWhile {accepts : Char → Bool} {rest : List Char}
    (dropped : source.dropWhile accepts = rest) (suffix : source <:+ chars)
    (use : List Char → Next) :
    (inFront chars rest tree point).slice chars (offsetOf chars.length source) use =
      use (source.takeWhile accepts) := by
  have split : source.takeWhile accepts ++ rest = source := by
    rw [← dropped, List.takeWhile_append_dropWhile]
  have start := congrArg (offsetOf chars.length) split
  rw [← start]
  exact slice_inFront _ (split.symm ▸ suffix) use

/-! ## Character data, comments and declarations -/

theorem goesOn_inFront {c : Char} {cs : List Char} (suffix : c :: cs <:+ chars) :
    (inFront chars (c :: cs) tree point).goesOn chars c = !startsMarkup (c :: cs) := by
  rw [goesOn, peekNext_inFront suffix]
  cases cs with
  | nil => simp [startsMarkup]
  | cons d cs => simp [startsMarkup_cons_cons]

theorem valueOf_ne_empty {run : List Char} (nonempty : run ≠ []) : valueOf run ≠ "" := by
  intro empty
  have := Text.unescapeChars_ne_nil nonempty
  simp [valueOf] at empty
  contradiction

/-- What happens in front of the characters that the next sibling starts with. -/
theorem step_siblings (suffix : source <:+ chars) :
    (inFront chars source tree .siblings).step chars =
      if source = [] then
        .state (inFront chars source tree
          (.returned (tree.stack.head?.map fun own => .unclosedElement own.tag own.offset)))
      else if ['<', '/'] <+: source then
        (inFront chars source tree .siblings).goto 2 (.closingName (offsetOf chars.length source)
          (offsetOf chars.length source + 2))
      else if ['<', '!', '-', '-'] <+: source then
        (inFront chars source tree .siblings).goto 4 .comment
      else if ['<', '!'] <+: source ∨ ['<', '?'] <+: source then
        .state (inFront chars source tree .declaration)
      else if source.head? = some '<' ∧ source[1]?.any Char.isAlpha then
        (inFront chars source tree .siblings).goto 1 (.tagName (offsetOf chars.length source)
          (offsetOf chars.length source + 1))
      else
        (inFront chars source tree .siblings).goto 1 (.text (offsetOf chars.length source)) := by
  rw [step, point_inFront]
  simp only [stepSiblings, length_le_pos_iff suffix, sees_inFront suffix, peek_inFront suffix,
    peekNext_inFront suffix, Bool.or_eq_true, Bool.and_eq_true, beq_iff_eq,
    List.isPrefixOf_iff_prefix]
  rfl

section

variable {c : Char} {cs : List Char}

theorem step_siblings_closing (suffix : '<' :: '/' :: cs <:+ chars) :
    (inFront chars ('<' :: '/' :: cs) tree .siblings).step chars =
      .state (inFront chars cs tree (.closingName (offsetOf chars.length ('<' :: '/' :: cs))
        (offsetOf chars.length cs))) := by
  have start := offsetOf_append_add ['<', '/'] suffix
  rw [step_siblings suffix, if_neg (List.cons_ne_nil _ _), if_pos ⟨cs, rfl⟩, ← start]
  exact goto_inFront ['<', '/'] suffix _

theorem step_siblings_comment (suffix : '<' :: '!' :: '-' :: '-' :: cs <:+ chars) :
    (inFront chars ('<' :: '!' :: '-' :: '-' :: cs) tree .siblings).step chars =
      .state (inFront chars cs tree .comment) := by
  rw [step_siblings suffix, if_neg (List.cons_ne_nil _ _), if_neg (by simp), if_pos ⟨cs, rfl⟩]
  exact goto_inFront ['<', '!', '-', '-'] suffix _

theorem step_siblings_declaration (suffix : '<' :: c :: cs <:+ chars)
    (opens : OpensDeclaration c cs) :
    (inFront chars ('<' :: c :: cs) tree .siblings).step chars =
      .state (inFront chars ('<' :: c :: cs) tree .declaration) := by
  rw [step_siblings suffix, if_neg (List.cons_ne_nil _ _)]
  obtain rfl | ⟨rfl, noComment⟩ := opens
  · simp
  · simp [noComment]

theorem step_siblings_opening (suffix : '<' :: c :: cs <:+ chars) (letter : c.isAlpha = true) :
    (inFront chars ('<' :: c :: cs) tree .siblings).step chars =
      .state (inFront chars (c :: cs) tree (.tagName (offsetOf chars.length ('<' :: c :: cs))
        (offsetOf chars.length (c :: cs)))) := by
  have start := offsetOf_append_add ['<'] suffix
  have other : ∀ mark, mark.isAlpha = false → mark ≠ c := by
    rintro mark plain rfl
    simp [plain] at letter
  rw [step_siblings suffix, if_neg (List.cons_ne_nil _ _), if_neg (by simp [other]),
    if_neg (by simp [other]), if_neg (by simp [other]), if_pos ⟨rfl, letter⟩, ← start]
  exact goto_inFront ['<'] suffix _

theorem step_siblings_text (suffix : c :: cs <:+ chars) (plain : startsMarkup (c :: cs) = false) :
    (inFront chars (c :: cs) tree .siblings).step chars =
      .state (inFront chars cs tree (.text (offsetOf chars.length (c :: cs)))) := by
  have taken : (inFront chars (c :: cs) tree .siblings).goto 1
      (.text (offsetOf chars.length (c :: cs))) =
      .state (inFront chars cs tree (.text (offsetOf chars.length (c :: cs)))) :=
    goto_inFront [c] suffix _
  rw [step_siblings suffix, taken, if_neg (List.cons_ne_nil _ _)]
  cases cs with
  | nil => simp
  | cons d cs =>
    rw [startsMarkup_cons_cons] at plain
    by_cases bracket : c = '<'
    · subst bracket
      simp only [beq_self_eq_true, Bool.true_and, Bool.or_eq_false_iff,
        beq_eq_false_iff_ne] at plain
      obtain ⟨⟨⟨letter, slash⟩, mark⟩, query⟩ := plain
      simp [letter, slash.symm, mark.symm, query.symm]
    · simp [bracket, Ne.symm bracket]

theorem reaches_text {run rest : List Char} (suffix : c :: (run ++ rest) <:+ chars)
    (plain : ∀ own, own <:+ c :: run → startsMarkup own = false) (ends : EndsText rest) :
    Reaches chars (inFront chars (c :: (run ++ rest)) tree .siblings)
      (inFront chars rest (tree.add [.text (valueOf (c :: run))]) .siblings) := by
  have behind := (List.suffix_cons c _).trans suffix
  have starts : ∀ own, own ≠ [] → own <:+ c :: run → startsMarkup (own ++ rest) = false :=
    fun own nonempty h => startsMarkup_append_of_endsText nonempty (plain own h) ends
  refine .head (step_siblings_text suffix (starts _ (List.cons_ne_nil c run) List.suffix_rfl)) ?_
  refine reaches_loop run (fun _ => rfl) behind ?_ ?_ ?_
  · intro d own inside
    have source : d :: (own ++ rest) <:+ chars := by
      obtain ⟨before, rfl⟩ := inside
      rw [List.append_assoc] at behind
      exact (List.suffix_append before _).trans behind
    rw [goesOn_inFront source, ← List.cons_append,
      starts _ (List.cons_ne_nil d own) (inside.trans (List.suffix_cons c run))]
    rfl
  · intro d first
    obtain rfl | markup := ends
    · cases first
    · cases rest with
      | nil => cases first
      | cons e rest =>
        cases first
        rw [goesOn_inFront ((List.suffix_append run _).trans behind), markup]
        rfl
  · refine (slice_inFront (c :: run) suffix _).trans ?_
    rw [Node.ofText, if_neg (by simpa using valueOf_ne_empty (List.cons_ne_nil c run))]
    exact append_inFront _

end

/-- Behind its `<!--` a comment goes up to the first `-->`. -/
theorem reaches_comment (suffix : source <:+ chars) :
    Reaches chars (inFront chars source tree .comment)
      (inFront chars (afterComment source) tree .siblings) := by
  have step : ∀ source, source <:+ chars → (inFront chars source tree .comment).step chars =
      if source = [] then .state (inFront chars source tree .siblings)
      else if commentEnd <+: source then (inFront chars source tree .comment).goto 3 .siblings
      else (inFront chars source tree .comment).goto 1 .comment := by
    intro source suffix
    rw [Scanner.step, point_inFront]
    simp only [length_le_pos_iff suffix, sees_inFront suffix, List.isPrefixOf_iff_prefix]
    rfl
  fun_induction afterComment source with
  | case1 cs =>
    refine .single ?_
    rw [step _ suffix, if_neg (List.cons_ne_nil _ _), if_pos ⟨cs, rfl⟩]
    exact goto_inFront commentEnd suffix _
  | case2 c cs later ih =>
    refine .head ?_ (ih ((List.suffix_cons c cs).trans suffix))
    have goesOn : ¬ commentEnd <+: c :: cs := by
      rintro ⟨more, equal⟩
      simp only [commentEnd, List.cons_append, List.nil_append, List.cons.injEq] at equal
      exact later more equal.1.symm equal.2.symm
    rw [step _ suffix, if_neg (List.cons_ne_nil _ _), if_neg goesOn]
    exact goto_inFront [c] suffix _
  | case3 =>
    refine .single ?_
    rw [step _ suffix, if_pos rfl]

theorem dropWhile_bne_eq (stop : Char) (cs : List Char) :
    cs.dropWhile (· != stop) = [] ∨ ∃ rest, cs.dropWhile (· != stop) = stop :: rest := by
  cases dropped : cs.dropWhile (· != stop) with
  | nil => exact .inl rfl
  | cons last rest =>
    obtain ⟨-, -, -, ends⟩ := dropWhile_eq_cons dropped
    obtain rfl : last = stop := by simpa using ends
    exact .inr ⟨rest, rfl⟩

/-- A declaration goes up to the first `>`, and its first two characters are none. -/
theorem reaches_declaration {mark : Char} {cs : List Char} (suffix : '<' :: mark :: cs <:+ chars)
    (opens : OpensDeclaration mark cs) :
    Reaches chars (inFront chars ('<' :: mark :: cs) tree .siblings)
      (inFront chars (afterDeclaration cs) tree .siblings) := by
  have behind := (List.dropWhile_suffix (· != '>')).trans suffix
  -- the cursor still is in front of the `<`, and neither that nor the mark ends a declaration
  have skipped : ('<' :: mark :: cs).dropWhile (· != '>') = cs.dropWhile (· != '>') := by
    obtain rfl | ⟨rfl, -⟩ := opens <;> rfl
  refine .head (step_siblings_declaration suffix opens) (reaches_dropWhile (fun _ => rfl) suffix ?_)
  rw [skipped] at behind ⊢
  rw [afterDeclaration]
  simp only [length_le_pos_iff behind]
  obtain ends | ⟨rest, ends⟩ := dropWhile_bne_eq '>' cs
  · rw [ends, if_pos rfl]
    rfl
  · rw [ends] at behind ⊢
    rw [if_neg (List.cons_ne_nil _ _)]
    exact goto_inFront ['>'] behind _

end

end Scanner

end NoteMarkup
