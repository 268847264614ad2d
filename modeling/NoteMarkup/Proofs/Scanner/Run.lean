import Mathlib.Data.List.Chain
import NoteMarkup.Proofs.Scanner.Safety
import NoteMarkup.Proofs.Scanner.Tag

/-!
# Reading a text in place to its end

Every text is read in place to an end, without a fault, and what is read is its tree.

- `comesTo_run` says that the reading ends, as the machine over the tokens of the text ends;
- `Runs.unique` says that there is no other reading of the text;
- `exists_sound_run` says what holds along all of it.
-/

namespace NoteMarkup

namespace Scanner

/-! ## Every reading ends -/

def ComesTo (chars : List Char) (s : Scanner) (outcome : Machine.Outcome) : Prop :=
  ∃ behind, Runs chars (s :: behind) outcome

section

variable {chars source : List Char} {s t : Scanner} {tree : Machine} {outcome : Machine.Outcome}

theorem ComesTo.of_step (steps : s.step chars = .state t) (comes : ComesTo chars t outcome) :
    ComesTo chars s outcome := by
  obtain ⟨behind, run⟩ := comes
  exact ⟨t :: behind, .step steps run⟩

theorem Reaches.comesTo (reaches : Reaches chars s t) (comes : ComesTo chars t outcome) :
    ComesTo chars s outcome := by
  induction reaches using Relation.ReflTransGen.head_induction_on with
  | refl => exact comes
  | head steps _ ih => exact ih.of_step steps

/-- Outside of all elements the reading ends. -/
theorem comesTo_outside {error? : Option ParseError} (outside : tree.stack = []) :
    ComesTo chars (inFront chars source tree (.returned error?)) ⟨tree.tree, error?⟩ := by
  have whole : tree.tree = tree.nodes := by
    rw [Machine.tree, outside, List.foldl_nil, List.append_nil]
  refine ⟨[], .done ?_⟩
  rw [step, point_inFront]
  simp only [stepReturned, inFront, outside, whole]

/-- What is wrong is handed through the open elements, which are kept with what they hold. -/
theorem comesTo_error (e : ParseError) :
    ComesTo chars (inFront chars source tree (.returned (some e))) ⟨tree.tree, some e⟩ := by
  -- each step closes one element, which does not change the tree that comes out
  induction opened : tree.stack.length generalizing tree with
  | zero => exact comesTo_outside (List.length_eq_zero_iff.mp opened)
  | succ depth ih =>
    obtain ⟨own, outer, stack⟩ := List.exists_cons_of_length_eq_add_one opened
    have inner : tree.pop.stack.length = depth := by
      rw [stack, List.length_cons, Nat.add_right_cancel_iff] at opened
      rw [Machine.pop, stack, Machine.length_stack_add, opened]
    rw [← Machine.tree_pop]
    exact .of_step (step_returned stack (some e)) (ih inner)

theorem suffix_of_readToken {token : Token} {rest : List Char} (nonempty : source ≠ [])
    (reads : readToken source = .ok (token, rest)) : rest <:+ source := by
  obtain ⟨_, _⟩ | _ := (tokenInFront_iff_readToken nonempty).mpr reads
  · exact List.suffix_append _ _
  · exact List.nil_suffix

/-- The reading in place comes to the same end as the machine over the tokens. -/
theorem comesTo_run (suffix : source <:+ chars) :
    ComesTo chars (inFront chars source tree .siblings)
      (tree.run ((lexemesOf source).map (Lexeme.piece chars.length))) := by
  fun_induction lexemesOf source generalizing tree with
  | case1 =>
    refine .of_step ((step_siblings suffix).trans (if_pos rfl)) ?_
    rw [List.map_nil, Machine.run]
    cases outside : tree.stack with
    | nil => exact comesTo_outside outside
    | cons own outer => exact comesTo_error _
  | case2 c cs construct reads =>
    refine (reads ▸ reaches_token (List.cons_ne_nil c cs) suffix).comesTo ?_
    rw [List.map_singleton, Machine.run_of_step_eq_error rfl]
    exact comesTo_error _
  | case3 c cs token rest reads ih =>
    have behind := (suffix_of_readToken (List.cons_ne_nil c cs) reads).trans suffix
    refine (reads ▸ reaches_token (List.cons_ne_nil c cs) suffix).comesTo ?_
    rw [List.map_cons, Lexeme.piece, afterToken]
    cases steps : tree.step ⟨offsetOf chars.length (c :: cs), token⟩ with
    | error e =>
      rw [Machine.run_of_step_eq_error steps]
      exact comesTo_error e
    | ok next =>
      rw [Machine.run_of_step_eq_ok steps]
      exact ih behind

end

/-! ## What holds of a whole reading -/

section

variable {chars : List Char} {states : List Scanner} {outcome : Machine.Outcome}

/-- There is one reading from each state on. -/
theorem Runs.unique {s : Scanner} {others : List Scanner} {other : Machine.Outcome}
    (run : Runs chars (s :: states) outcome) (again : Runs chars (s :: others) other) :
    states = others ∧ outcome = other := by
  generalize whole : s :: states = all at run
  induction run generalizing s states others with
  | done ends =>
    cases whole
    cases again with
    | done endsToo =>
      cases ends.symm.trans endsToo
      exact ⟨rfl, rfl⟩
    | step steps => cases ends.symm.trans steps
  | step steps run ih =>
    cases whole
    cases again with
    | done ends => cases steps.symm.trans ends
    | step stepsToo behind =>
      cases steps.symm.trans stepsToo
      obtain ⟨rfl, rfl⟩ := ih behind rfl
      exact ⟨rfl, rfl⟩

/-- Every state of a reading is safe, and it goes from each to the next as a step may. -/
theorem Runs.safe (run : Runs chars states outcome) (start : ∀ s ∈ states.head?, Safe chars s) :
    (∀ s ∈ states, Safe chars s) ∧ states.Pairwise (Before chars) := by
  rw [← List.isChain_iff_pairwise]
  induction run with
  | done ends => exact ⟨by simpa using start, .singleton _⟩
  | @step s t states outcome steps run ih =>
    have fits := fits_step (start s rfl)
    rw [steps] at fits
    obtain ⟨safe, chain⟩ := ih fun _ h => Option.mem_some.mp h ▸ fits.1
    exact ⟨List.forall_mem_cons.mpr ⟨start s rfl, safe⟩, .cons_cons fits.2.1 chain⟩

theorem Runs.suffix {before : List Scanner} {s : Scanner} {behind : List Scanner}
    (run : Runs chars (before ++ s :: behind) outcome) : Runs chars (s :: behind) outcome := by
  induction before with
  | nil => exact run
  | cons first before ih =>
    rw [List.cons_append] at run
    generalize rest : before ++ s :: behind = others at run
    cases run with
    | done => simp at rest
    | step steps run => exact ih (rest ▸ run)

/-- Elements that are open stay open until their content has been read. -/
theorem Runs.exists_returned (run : Runs chars states outcome) (opens : List (String × Nat))
    (safe : ∀ s ∈ states, Safe chars s) (outer : ∀ s ∈ states.head?, opens <:+ s.opens) :
    ∃ inside t after, states = inside ++ t :: after ∧ t.IsReturned ∧ t.opens = opens ∧
      ∀ s ∈ inside, Inside opens s := by
  induction run with
  | @done s outcome ends =>
    have fits := fits_step (safe s List.mem_cons_self)
    rw [ends] at fits
    obtain ⟨returned, outside⟩ := fits
    have none : s.opens = [] := by rw [Scanner.opens, outside, List.map_nil]
    have all : opens = [] := List.suffix_nil.mp (none ▸ outer s rfl)
    exact ⟨[], s, [], rfl, returned, none.trans all.symm, by simp⟩
  | @step s t states outcome steps run ih =>
    by_cases back : s.IsReturned ∧ s.opens = opens
    · exact ⟨[], s, t :: states, rfl, back.1, back.2, by simp⟩
    · have here : Inside opens s := ⟨outer s rfl, fun returned same => back ⟨returned, same⟩⟩
      have next := here.suffix_step (safe s List.mem_cons_self) steps
      obtain ⟨inside, last, after, split, returned, same, within⟩ :=
        ih (List.forall_mem_cons.mp safe).2 fun _ h => Option.mem_some.mp h ▸ next
      exact ⟨s :: inside, last, after, by rw [split, List.cons_append], returned, same,
        List.forall_mem_cons.mpr ⟨here, within⟩⟩

/-- Elements that are open have been opened, and since then it went on inside of them. -/
theorem Runs.exists_entered {s : Scanner} {behind : List Scanner}
    (run : Runs chars (s :: behind) outcome) (safe : ∀ u ∈ s :: behind, Safe chars u)
    (point : s.point = .siblings) (outside : s.opens = []) {before : List Scanner} {t : Scanner}
    {after : List Scanner} (split : s :: behind = before ++ t :: after)
    {opens : List (String × Nat)} (outer : opens <:+ t.opens) :
    (t.point = .siblings ∧ t.opens = opens) ∨
      ∃ front u inside, before = front ++ u :: inside ∧ u.point = .siblings ∧ u.opens = opens ∧
        ∀ v ∈ inside, Inside opens v := by
  induction before using List.reverseRecOn generalizing t after with
  | nil =>
    obtain ⟨rfl, -⟩ := List.cons.inj split
    exact .inl ⟨point, outside.trans (List.suffix_nil.mp (outside ▸ outer)).symm⟩
  | append_singleton before u ih =>
    rw [List.append_assoc, List.singleton_append] at split
    have safe_u := safe u (split ▸ List.mem_append_right _ List.mem_cons_self)
    cases (split ▸ run).suffix with
    | step steps _ =>
      obtain here | new := inside_or_entered outer safe_u steps
      · obtain ⟨stands, same⟩ | ⟨front, entry, inside, rfl, stands, same, within⟩ :=
          ih split here.1
        · exact .inr ⟨before, u, [], rfl, stands, same, by simp⟩
        · refine .inr ⟨front, entry, inside ++ [u], by simp, stands, same, ?_⟩
          exact List.forall_mem_append.mpr ⟨within, by simpa using here⟩
      · exact .inl new

theorem depth_eq_of_opens {s t : Scanner} (here : Safe chars s) (there : Safe chars t)
    (opens : t.opens = s.opens) : t.depth = s.depth := by
  rw [there.depth_eq, here.depth_eq, ← length_opens, ← length_opens, opens]

/-- The siblings that are read at `s` have been read at `t`: the same elements are open, and
    between `s` and `t` it went on inside of the innermost of them. -/
structure ReturnsAt (s : Scanner) (inside : List Scanner) (t : Scanner) : Prop where
  siblings : s.point = .siblings
  returned : t.IsReturned
  opens : t.opens = s.opens
  depth : t.depth = s.depth
  within : ∀ u ∈ inside, Inside s.opens u

theorem Runs.exists_returnsAt {s : Scanner} {behind : List Scanner}
    (run : Runs chars (s :: behind) outcome) (safe : ∀ u ∈ s :: behind, Safe chars u)
    (point : s.point = .siblings) :
    ∃ inside t after, behind = inside ++ t :: after ∧ ReturnsAt s inside t := by
  obtain ⟨inside, t, after, split, returned, opens, within⟩ :=
    run.exists_returned s.opens safe fun _ h => Option.mem_some.mp h ▸ List.suffix_rfl
  cases inside with
  | nil =>
    obtain ⟨rfl, -⟩ := List.cons.inj split
    obtain ⟨error?, ends⟩ := returned
    cases point.symm.trans ends
  | cons first inside =>
    obtain ⟨rfl, rfl⟩ := List.cons.inj split
    exact ⟨inside, t, after, rfl, point, returned, opens,
      depth_eq_of_opens (safe s (by simp)) (safe t (by simp)) opens,
      (List.forall_mem_cons.mp within).2⟩

theorem Runs.exists_returnsAt_of_isReturned {s t : Scanner} {behind before after : List Scanner}
    (run : Runs chars (s :: behind) outcome) (safe : ∀ u ∈ s :: behind, Safe chars u)
    (point : s.point = .siblings) (outside : s.opens = [])
    (split : s :: behind = before ++ t :: after) (returned : t.IsReturned) :
    ∃ front u inside, before = front ++ u :: inside ∧ ReturnsAt u inside t := by
  obtain ⟨entered, -⟩ | ⟨front, u, inside, rfl, stands, opens, within⟩ :=
    run.exists_entered safe point outside split List.suffix_rfl
  · obtain ⟨error?, ends⟩ := returned
    cases entered.symm.trans ends
  · have safe_u := safe u (by simp [split])
    have safe_t := safe t (by simp [split])
    exact ⟨front, u, inside, rfl, stands, returned, opens.symm,
      depth_eq_of_opens safe_u safe_t opens.symm, opens ▸ within⟩

/-- How a reading uses its cursor and its counter: the cursor stays inside the text and moves ahead
    from sibling to sibling and from attribute to attribute, and the counter is the number of open
    elements, also where siblings have been read or something is wrong among them. -/
structure Sound (chars : List Char) (states : List Scanner) : Prop where
  pos_le : ∀ s ∈ states, s.pos ≤ chars.length
  forward : states.Pairwise fun s t => s.pos ≤ t.pos
  /-- What is taken from the text is there. -/
  start_le : ∀ s ∈ states, ∀ start ∈ s.point.start?, start ≤ s.pos
  siblings_lt : states.Pairwise fun s t =>
    s.point = .siblings → t.point = .siblings → s.pos < t.pos
  attributes_lt : states.Pairwise fun s t => ∀ own other,
    s.point = .attributes own → t.point = .attributes other → s.pos < t.pos
  depth_eq : ∀ s ∈ states, s.depth = s.tree.stack.length
  depth_le : ∀ s ∈ states, s.depth ≤ 512
  /-- Siblings are read inside of each open element, and outside of all. -/
  calls_le : ∀ s ∈ states, s.tree.stack.length + 1 ≤ 513
  /-- All siblings are read to their end, which is in the same element. -/
  returns : ∀ before s behind, states = before ++ s :: behind → s.point = .siblings →
    ∃ inside t after, behind = inside ++ t :: after ∧ ReturnsAt s inside t
  returned : ∀ before t after, states = before ++ t :: after → t.IsReturned →
    ∃ front s inside, before = front ++ s :: inside ∧ ReturnsAt s inside t

theorem Runs.sound {behind : List Scanner} (run : Runs chars ({} :: behind) outcome) :
    Sound chars ({} :: behind) := by
  obtain ⟨safe, before⟩ := run.safe fun _ h => Option.mem_some.mp h ▸ safe_start chars
  refine
    { pos_le := fun s h => (safe s h).pos_le
      forward := before.imp Before.pos_le
      start_le := fun s h => (safe s h).start_le
      siblings_lt := before.imp ?_
      attributes_lt := before.imp ?_
      depth_eq := fun s h => (safe s h).depth_eq
      depth_le := fun s h => (safe s h).depth_le
      calls_le := fun s h => Nat.succ_le_succ (safe s h).opened_le
      returns := ?_
      returned := fun _ _ _ split => run.exists_returnsAt_of_isReturned safe rfl rfl split }
  · intro s t further here there
    refine further.pos_lt ?_
    rw [rank_eq here, rank_eq there]
    rfl
  · intro s t further own other here there
    refine further.pos_lt ?_
    rw [rank_eq here, rank_eq there]
    rfl
  · intro before s behind split stands
    rw [split] at run safe
    exact run.suffix.exists_returnsAt (fun u h => safe u (List.mem_append_right _ h)) stands

end

/-- Every text is read in place in exactly one way, to the tree that it has or to what is wrong
    with it. -/
theorem exists_sound_run (markup : String) :
    ∃ behind outcome,
      (∀ others other,
        Runs markup.toList ({} :: others) other ↔ others = behind ∧ other = outcome) ∧
      parse markup = outcome.root ∧ parseStrict markup = outcome.result ∧
      Sound markup.toList ({} :: behind) := by
  have comes : ComesTo markup.toList (inFront markup.toList markup.toList {} .siblings)
      (Machine.run {} (piecesOf markup)) := comesTo_run List.suffix_rfl
  have start : inFront markup.toList markup.toList {} .siblings = {} := by
    simp [inFront, offsetOf]
  rw [start] at comes
  obtain ⟨behind, run⟩ := comes
  refine ⟨behind, _, fun others other => ⟨fun again => again.unique run, ?_⟩,
    Machine.parse_eq_root_run markup, Machine.parseStrict_eq_result_run markup,
    run.sound⟩
  rintro ⟨rfl, rfl⟩
  exact run

end Scanner

end NoteMarkup
