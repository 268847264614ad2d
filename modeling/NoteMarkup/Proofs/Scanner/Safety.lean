import NoteMarkup.Proofs.Scanner.Step

/-!
# Every step is safe

The cursor moves forward inside the text, and the counter is the number of open elements.  Where the
cursor stays, the rank of the point falls instead, so no loop goes round without a move.

- `Safe` is what holds at every point, and `fits_step` says that every step keeps it;
- `Inside` is being inside of an element that is open, until its content has been read.
-/

namespace NoteMarkup

namespace Scanner

/-- The cursor and the places that are kept are inside the text, and as many elements are counted
    as open as are open. -/
structure Safe (chars : List Char) (s : Scanner) : Prop where
  pos_le : s.pos ≤ chars.length
  start_le : ∀ start ∈ s.point.start?, start ≤ s.pos
  /-- Where no name is found, there is a character to skip. -/
  name_lt : ∀ own start, s.point = .attributeName own start → start < chars.length
  depth_eq : s.depth = s.tree.stack.length
  depth_le : s.depth ≤ maxDepth

/-- How far a point is from the next move of the cursor or from the end.  The points that lead to
    others without a move have a higher rank than those. -/
def Point.rank (size pos opened : Nat) : Point → Nat
  | .returned none => if opened = 0 then 0 else maxDepth + 3
  | .returned (some _) => opened
  | .siblings => maxDepth + 2
  -- at its start the cursor is still in front of the `<`
  | .declaration => if pos < size then maxDepth + 1 else maxDepth + 3
  | .text _ | .comment | .opened _ _ => maxDepth + 3
  | .closingName _ _ => maxDepth + 2
  | .closingEnd _ _ | .quotedValue _ _ _ _ => maxDepth + 1
  | .tagName _ _ => maxDepth + 4
  | .attributes _ => maxDepth + 3
  | .beforeName _ => maxDepth + 2
  | .attributeName _ start => if start < pos then maxDepth + 5 else maxDepth + 1
  | .behindName _ _ | .bareValue _ _ _ => maxDepth + 4
  | .beforeValue _ _ => maxDepth + 5

def rank (chars : List Char) (s : Scanner) : Nat :=
  s.point.rank chars.length s.pos s.tree.stack.length

/-- The cursor has moved forward, or it has stayed and the rank has fallen. -/
def Before (chars : List Char) (s t : Scanner) : Prop :=
  s.pos < t.pos ∨ s.pos = t.pos ∧ t.rank chars < s.rank chars

section

variable {chars : List Char} {s t u : Scanner}

theorem Before.trans (first : Before chars s t) (second : Before chars t u) :
    Before chars s u := by
  unfold Before at *
  omega

instance : Trans (Before chars) (Before chars) (Before chars) :=
  ⟨Before.trans⟩

theorem Before.pos_le (before : Before chars s t) : s.pos ≤ t.pos := by
  unfold Before at before
  omega

/-- Between points of one rank the cursor has moved. -/
theorem Before.pos_lt (before : Before chars s t) (ranks : s.rank chars = t.rank chars) :
    s.pos < t.pos := by
  unfold Before at before
  omega

end

def IsReturned (s : Scanner) : Prop :=
  ∃ error?, s.point = .returned error?

/-- What a step does to the tree.  Behind an opening tag the siblings inside of the element are
    read, and it is closed only behind them. -/
inductive Builds (s t : Scanner) : Prop where
  | stay (tree : t.tree = s.tree)
  | add (nodes : List Node) (tree : t.tree = s.tree.add nodes)
  | push (own : OpenElement) (tree : t.tree = s.tree.push own) (point : t.point = .siblings)
  | pop (returned : s.IsReturned) (tree : t.tree = s.tree.pop)

/-- What a step may come to: a safe state further on, or the end, which is outside of all
    elements. -/
def Fits (chars : List Char) (s : Scanner) : Next → Prop
  | .state t => Safe chars t ∧ Before chars s t ∧ Builds s t
  | .done _ => s.IsReturned ∧ s.tree.stack = []
  | .fault => False

section

variable {chars : List Char} {s : Scanner} {here : Point}

theorem safe_start (chars : List Char) : Safe chars {} :=
  ⟨Nat.zero_le _, nofun, nofun, rfl, Nat.zero_le _⟩

theorem Safe.opened_le (safe : Safe chars s) : s.tree.stack.length ≤ maxDepth :=
  safe.depth_eq ▸ safe.depth_le

theorem rank_eq (stands : s.point = here) :
    s.rank chars = here.rank chars.length s.pos s.tree.stack.length := by
  rw [rank, stands]

theorem fits_move {ahead : Nat} {point : Point} (safe : Safe chars s) (moves : 0 < ahead)
    (room : s.pos + ahead ≤ chars.length)
    (start_le : ∀ start ∈ point.start?, start ≤ s.pos + ahead)
    (name_lt : ∀ own start, point = .attributeName own start → start < chars.length) :
    Fits chars s (s.goto ahead point) :=
  ⟨⟨room, start_le, name_lt, safe.depth_eq, safe.depth_le⟩,
    .inl (Nat.lt_add_of_pos_right moves), .stay rfl⟩

theorem fits_stay {point : Point} (safe : Safe chars s) (stands : s.point = here)
    (start_le : ∀ start ∈ point.start?, start ≤ s.pos)
    (name_lt : ∀ own start, point = .attributeName own start → start < chars.length)
    (rank_lt : point.rank chars.length s.pos s.tree.stack.length <
      here.rank chars.length s.pos s.tree.stack.length) :
    Fits chars s (s.goto 0 point) :=
  ⟨⟨safe.pos_le, start_le, name_lt, safe.depth_eq, safe.depth_le⟩,
    .inr ⟨rfl, rank_eq stands ▸ rank_lt⟩, .stay rfl⟩

theorem fits_fail (safe : Safe chars s) (stands : s.point = here) (e : ParseError)
    (rank_lt : maxDepth < here.rank chars.length s.pos s.tree.stack.length) :
    Fits chars s (s.fail e) :=
  fits_stay safe stands nofun nofun (Nat.lt_of_le_of_lt safe.opened_le rank_lt)

theorem fits_append (safe : Safe chars s) (stands : s.point = here) (nodes : List Node)
    (rank_lt : maxDepth + 2 < here.rank chars.length s.pos s.tree.stack.length) :
    Fits chars s (s.append nodes) := by
  refine ⟨⟨safe.pos_le, nofun, nofun, ?_, safe.depth_le⟩, .inr ⟨rfl, rank_eq stands ▸ rank_lt⟩,
    .add nodes rfl⟩
  rw [Machine.length_stack_add]
  exact safe.depth_eq

theorem fits_slice {start : Nat} {use : List Char → Next} (safe : Safe chars s)
    (start_le : start ≤ s.pos) (fits : Fits chars s (use ((chars.take s.pos).drop start))) :
    Fits chars s (s.slice chars start use) := by
  rw [slice, if_pos ⟨start_le, safe.pos_le⟩]
  exact fits

theorem lt_of_peek {c : Char} (peek : s.peek chars = some c) : s.pos < chars.length :=
  (List.getElem?_eq_some_iff.mp peek).1

/-- A loop goes on at the next character, so only what stands behind it has to fit. -/
theorem fits_loop {accepts : Char → Bool} {behind : Next} (safe : Safe chars s)
    (fits : Fits chars s behind) : Fits chars s (s.loop chars accepts behind) := by
  unfold loop
  split
  · rename_i goes
    cases peek : s.peek chars with
    | none => simp [peek] at goes
    | some c =>
      exact fits_move safe (Nat.succ_pos _) (lt_of_peek peek)
        (fun start h => Nat.le_succ_of_le (safe.start_le start h)) safe.name_lt
  · exact fits

theorem add_length_le_of_sees {text : String} (safe : Safe chars s)
    (sees : s.sees chars text = true) : s.pos + text.length ≤ chars.length := by
  have length := (List.isPrefixOf_iff_prefix.mp sees).length_le
  rw [List.length_drop, String.length_toList] at length
  have := safe.pos_le
  omega

/-! ## One step -/

theorem fits_stepSiblings (safe : Safe chars s) (stands : s.point = .siblings) :
    Fits chars s (s.stepSiblings chars) := by
  unfold stepSiblings
  split_ifs with atEnd closing comment declaration opening
  · -- outside of all elements this is the end, and inside of one it is an error
    refine fits_stay safe stands nofun nofun ?_
    have opened_le := safe.opened_le
    cases stack : s.tree.stack with
    | nil => simp [Point.rank]
    | cons own outer =>
      rw [stack] at opened_le
      exact Nat.lt_add_right 1 (Nat.lt_succ_of_le opened_le)
  · exact fits_move safe (Nat.succ_pos _) (add_length_le_of_sees safe closing) (by simp [Point.start?])
      nofun
  · exact fits_move safe (Nat.succ_pos _) (add_length_le_of_sees safe comment) nofun nofun
  · exact fits_stay safe stands nofun nofun (by simp [Point.rank, Nat.lt_of_not_le atEnd])
  · exact fits_move safe (Nat.succ_pos _) (Nat.lt_of_not_le atEnd) (by simp [Point.start?]) nofun
  · exact fits_move safe (Nat.succ_pos _) (Nat.lt_of_not_le atEnd) (by simp [Point.start?]) nofun

theorem fits_stepInTag {own : OpenElement} (safe : Safe chars s)
    (stands : s.point = .beforeName own) : Fits chars s (s.stepInTag chars own) := by
  unfold stepInTag
  split
  · exact fits_fail safe stands _ (by simp [Point.rank])
  · rename_i c peek
    have room := lt_of_peek peek
    split_ifs with close selfClose
    · exact fits_move safe (Nat.succ_pos _) room nofun nofun
    · have next : s.peekNext chars = some '>' := by simp_all
      exact fits_move safe (Nat.succ_pos _) (List.getElem?_eq_some_iff.mp next).1 nofun nofun
    · refine fits_stay safe stands (by simp [Point.start?]) ?_ (by simp [Point.rank])
      intro own start same
      cases same
      exact room

theorem fits_stepOpened {own : OpenElement} {selfClosing : Bool} (safe : Safe chars s)
    (stands : s.point = .opened own selfClosing) : Fits chars s (s.stepOpened own selfClosing) := by
  unfold stepOpened
  split_ifs with childless deep
  · exact fits_append safe stands _ (by simp [Point.rank])
  · exact fits_fail safe stands _ (by simp [Point.rank])
  · refine ⟨⟨safe.pos_le, nofun, nofun, ?_, Nat.lt_of_not_le deep⟩, .inr ⟨rfl, ?_⟩,
      .push own rfl rfl⟩
    · simp [Machine.push, safe.depth_eq]
    · simp [rank, stands, Point.rank]

theorem fits_stepReturned {error? : Option ParseError} (safe : Safe chars s)
    (stands : s.point = .returned error?) : Fits chars s (s.stepReturned error?) := by
  have depth := safe.depth_eq
  unfold stepReturned
  cases stack : s.tree.stack with
  | nil => exact ⟨⟨error?, stands⟩, stack⟩
  | cons own outer =>
    rw [stack, List.length_cons] at depth
    have popped : s.tree.pop.stack.length = outer.length := by
      simp [Machine.pop, stack, Machine.length_stack_add]
    rw [if_neg (by omega)]
    refine ⟨⟨safe.pos_le, ?_, ?_, ?_, ?_⟩, .inr ⟨rfl, ?_⟩, .pop ⟨error?, stands⟩ rfl⟩
    · cases error? <;> simp [Point.behindElement, Point.start?]
    · cases error? <;> simp [Point.behindElement]
    · simp [popped, depth]
    · exact Nat.le_trans (Nat.sub_le _ _) safe.depth_le
    · cases error? <;> simp [rank, stands, stack, popped, Point.rank, Point.behindElement]

/-- Every step from a safe state is safe and goes forward, and none faults. -/
theorem fits_step (safe : Safe chars s) : Fits chars s (s.step chars) := by
  have start_le := safe.start_le
  unfold step
  cases stands : s.point with
  | siblings => exact fits_stepSiblings safe stands
  | text start =>
    rw [stands] at start_le
    exact fits_loop safe
      (fits_slice safe (start_le start rfl) (fits_append safe stands _ (by simp [Point.rank])))
  | comment =>
    dsimp only
    split_ifs with atEnd close
    · exact fits_stay safe stands nofun nofun (by simp [Point.rank])
    · exact fits_move safe (Nat.succ_pos _) (add_length_le_of_sees safe close) nofun nofun
    · exact fits_move safe (Nat.succ_pos _) (Nat.lt_of_not_le atEnd) nofun nofun
  | declaration =>
    refine fits_loop safe ?_
    split_ifs with atEnd
    · exact fits_stay safe stands nofun nofun (by simp [Point.rank, Nat.not_lt.mpr atEnd])
    · exact fits_move safe (Nat.succ_pos _) (Nat.lt_of_not_le atEnd) nofun nofun
  | closingName offset start =>
    rw [stands] at start_le
    exact fits_loop safe (fits_slice safe (start_le start rfl)
      (fits_stay safe stands nofun nofun (by simp [Point.rank])))
  | closingEnd offset found =>
    refine fits_loop safe ?_
    split_ifs with atEnd
    · exact fits_fail safe stands _ (by simp [Point.rank])
    · exact fits_move safe (Nat.succ_pos _) (Nat.lt_of_not_le atEnd) nofun nofun
  | tagName offset start =>
    rw [stands] at start_le
    exact fits_loop safe (fits_slice safe (start_le start rfl)
      (fits_stay safe stands nofun nofun (by simp [Point.rank])))
  | attributes own => exact fits_stay safe stands nofun nofun (by simp [Point.rank])
  | beforeName own => exact fits_loop safe (fits_stepInTag safe stands)
  | attributeName own start =>
    have room := safe.name_lt own start stands
    rw [stands] at start_le
    have start_le := start_le start rfl
    refine fits_loop safe (fits_slice safe start_le ?_)
    split_ifs with empty
    · -- nothing has been read, so the cursor is at the character where the name should start
      have stays : s.pos = start := by
        simp at empty
        omega
      exact fits_move safe (Nat.succ_pos _) (stays ▸ room) nofun nofun
    · have moved : start < s.pos := by
        simp at empty
        omega
      exact fits_stay safe stands nofun nofun (by simp [Point.rank, moved])
  | behindName own name =>
    refine fits_loop safe ?_
    split_ifs with equals
    · exact fits_move safe (Nat.succ_pos _) (lt_of_peek (beq_iff_eq.mp equals)) nofun nofun
    · exact fits_stay safe stands nofun nofun (by simp [Point.rank, Point.behindAttribute])
  | beforeValue own name =>
    refine fits_loop safe ?_
    split
    · rename_i quote peek
      exact fits_move safe (Nat.succ_pos _) (lt_of_peek (Option.filter_eq_some_iff.mp peek).1)
        (by simp [Point.start?]) nofun
    · exact fits_stay safe stands (by simp [Point.start?]) nofun (by simp [Point.rank])
  | quotedValue own name quote start =>
    rw [stands] at start_le
    refine fits_loop safe ?_
    split_ifs with atEnd
    · exact fits_fail safe stands _ (by simp [Point.rank])
    · exact fits_slice safe (start_le start rfl)
        (fits_move safe (Nat.succ_pos _) (Nat.lt_of_not_le atEnd) nofun nofun)
  | bareValue own name start =>
    rw [stands] at start_le
    exact fits_loop safe (fits_slice safe (start_le start rfl)
      (fits_stay safe stands nofun nofun (by simp [Point.rank, Point.behindAttribute])))
  | opened own selfClosing => exact fits_stepOpened safe stands
  | returned error? => exact fits_stepReturned safe stands

end

/-! ## The open elements -/

def opens (s : Scanner) : List (String × Nat) :=
  s.tree.stack.map fun own => (own.tag, own.offset)

theorem length_opens (s : Scanner) : s.opens.length = s.tree.stack.length :=
  List.length_map ..

theorem map_stack_add {m : Machine} (nodes : List Node) :
    (m.add nodes).stack.map (fun own => (own.tag, own.offset)) =
      m.stack.map fun own => (own.tag, own.offset) := by
  cases m with
  | mk outer stack => cases stack <;> rfl

def Inside (opens : List (String × Nat)) (s : Scanner) : Prop :=
  opens <:+ s.opens ∧ (s.IsReturned → s.opens ≠ opens)

section

variable {chars : List Char} {s t : Scanner}

theorem exists_opens_of_isReturned (returned : s.IsReturned) (steps : s.step chars = .state t) :
    ∃ place, s.opens = place :: t.opens := by
  obtain ⟨error?, stands⟩ := returned
  rw [step, stands] at steps
  dsimp only [stepReturned] at steps
  split at steps
  · cases steps
  · rename_i own outer opened
    split at steps
    · cases steps
    · cases steps
      exact ⟨(own.tag, own.offset), by simp [opens, Machine.pop, opened, map_stack_add]⟩

theorem opens_of_not_isReturned (safe : Safe chars s) (reading : ¬ s.IsReturned)
    (steps : s.step chars = .state t) :
    t.opens = s.opens ∨ t.point = .siblings ∧ ∃ place, t.opens = place :: s.opens := by
  have fits := fits_step safe
  rw [steps] at fits
  obtain ⟨-, -, builds⟩ := fits
  unfold opens
  cases builds with
  | stay same => exact .inl (by rw [same])
  | add nodes added => exact .inl (by rw [added, map_stack_add])
  | push own pushed point => exact .inr ⟨point, (own.tag, own.offset), by rw [pushed]; rfl⟩
  | pop returned popped => exact absurd returned reading

theorem Inside.suffix_step {opens : List (String × Nat)} (inside : Inside opens s)
    (safe : Safe chars s) (steps : s.step chars = .state t) : opens <:+ t.opens := by
  obtain ⟨outer, goesOn⟩ := inside
  by_cases returned : s.IsReturned
  · obtain ⟨place, closed⟩ := exists_opens_of_isReturned returned steps
    obtain same | inner := List.suffix_cons_iff.mp (closed ▸ outer)
    · exact absurd (closed.trans same.symm) (goesOn returned)
    · exact inner
  · obtain same | ⟨-, place, opened⟩ := opens_of_not_isReturned safe returned steps
    · exact same ▸ outer
    · exact opened ▸ outer.trans (List.suffix_cons place s.opens)

/-- Open elements have been open in front of the step, unless the innermost of them is new. -/
theorem inside_or_entered {opens : List (String × Nat)} (outer : opens <:+ t.opens)
    (safe : Safe chars s) (steps : s.step chars = .state t) :
    Inside opens s ∨ t.point = .siblings ∧ t.opens = opens := by
  by_cases returned : s.IsReturned
  · obtain ⟨place, closed⟩ := exists_opens_of_isReturned returned steps
    refine .inl ⟨closed ▸ outer.trans (List.suffix_cons place t.opens), fun _ same => ?_⟩
    have length := outer.length_le
    rw [← same, closed, List.length_cons] at length
    omega
  · obtain same | ⟨point, place, opened⟩ := opens_of_not_isReturned safe returned steps
    · exact .inl ⟨same ▸ outer, fun h => absurd h returned⟩
    · obtain new | old := List.suffix_cons_iff.mp (opened ▸ outer)
      · exact .inr ⟨point, opened.trans new.symm⟩
      · exact .inl ⟨old, fun h => absurd h returned⟩

end

end Scanner

end NoteMarkup
