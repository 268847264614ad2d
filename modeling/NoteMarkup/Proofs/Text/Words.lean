import Mathlib.Data.List.TakeWhile
import NoteMarkup.Proofs.Text.Blank

/-!
# Words of a text

A text and the words in it, and the one text that has these words with single spaces between them.
Everything about words is found by cutting the text at a blank (`wordsOf_append_cons`).
-/

namespace NoteMarkup.Text

structure IsWord (cs : List Char) : Prop where
  ne_nil : cs ≠ []
  plain : ∀ c ∈ cs, isBlank c = false

theorem wordsOf_cons_of_isBlank {c : Char} (blank : isBlank c = true) (cs : List Char) :
    wordsOf (c :: cs) = wordsOf cs := by
  rw [wordsOf, if_pos blank]

theorem wordsOf_cons_of_not_isBlank {c : Char} (plain : isBlank c = false) (cs : List Char) :
    wordsOf (c :: cs) =
      (c :: cs.takeWhile (!isBlank ·)) :: wordsOf (cs.dropWhile (!isBlank ·)) := by
  rw [wordsOf, if_neg (by simp [plain])]

theorem isWord_of_mem_wordsOf {cs word : List Char} (h : word ∈ wordsOf cs) : IsWord word := by
  fun_induction wordsOf cs with
  | case1 => cases h
  | case2 c cs blank ih => exact ih h
  | case3 c cs plain ih =>
    obtain rfl | h := List.mem_cons.mp h
    · refine ⟨List.cons_ne_nil _ _, List.forall_mem_cons.mpr ⟨by simpa using plain, ?_⟩⟩
      intro d member
      simpa using List.mem_takeWhile_imp member
    · exact ih h

theorem takeWhile_append_stop {p : Char → Bool} {stop : Char} (hstop : p stop = false)
    (cs rest : List Char) : (cs ++ stop :: rest).takeWhile p = cs.takeWhile p := by
  induction cs with
  | nil => exact List.takeWhile_cons_of_neg (by simp [hstop])
  | cons c cs ih => rw [List.cons_append, List.takeWhile_cons, List.takeWhile_cons, ih]

theorem dropWhile_append_stop {p : Char → Bool} {stop : Char} (hstop : p stop = false)
    (cs rest : List Char) :
    (cs ++ stop :: rest).dropWhile p = cs.dropWhile p ++ stop :: rest := by
  induction cs with
  | nil => exact List.dropWhile_cons_of_neg (by simp [hstop])
  | cons c cs ih =>
    rw [List.cons_append, List.dropWhile_cons, List.dropWhile_cons, ih]
    split <;> rfl

/-- No word goes across a blank. -/
theorem wordsOf_append_cons {stop : Char} (blank : isBlank stop = true) (cs rest : List Char) :
    wordsOf (cs ++ stop :: rest) = wordsOf cs ++ wordsOf rest := by
  have stops : (!isBlank stop) = false := by rw [blank, Bool.not_true]
  fun_induction wordsOf cs with
  | case1 => exact wordsOf_cons_of_isBlank blank rest
  | case2 c cs blank ih =>
    rw [List.cons_append, wordsOf_cons_of_isBlank blank, ih]
  | case3 c cs plain ih =>
    -- the word in front ends at the same place, at the latest in front of the blank
    rw [List.cons_append, wordsOf_cons_of_not_isBlank (by simpa using plain),
      takeWhile_append_stop stops, dropWhile_append_stop stops, ih, List.cons_append]

theorem IsWord.wordsOf_eq {word : List Char} (h : IsWord word) : wordsOf word = [word] := by
  obtain ⟨c, cs, rfl⟩ := List.exists_cons_of_ne_nil h.ne_nil
  obtain ⟨first, others⟩ := List.forall_mem_cons.mp h.plain
  have all : ∀ d ∈ cs, (!isBlank d) = true := fun d member => by rw [others d member, Bool.not_false]
  rw [wordsOf_cons_of_not_isBlank first, List.takeWhile_eq_self_iff.mpr all,
    List.dropWhile_eq_nil_iff.mpr all, wordsOf]

/-- Words hold every character that is not blank, in order. -/
theorem flatten_wordsOf (cs : List Char) : (wordsOf cs).flatten = cs.filter (!isBlank ·) := by
  fun_induction wordsOf cs with
  | case1 => rfl
  | case2 c cs blank ih => rw [ih, List.filter_cons_of_neg (by simp [blank])]
  | case3 c cs plain ih =>
    have word : (cs.takeWhile (!isBlank ·)).filter (!isBlank ·) = cs.takeWhile (!isBlank ·) := by
      rw [List.filter_eq_self]
      intro d member
      exact List.mem_takeWhile_imp (p := (!isBlank ·)) member
    have split : cs.filter (!isBlank ·) =
        cs.takeWhile (!isBlank ·) ++ (cs.dropWhile (!isBlank ·)).filter (!isBlank ·) := by
      rw [← word, ← List.filter_append, List.takeWhile_append_dropWhile]
    rw [List.flatten_cons, ih, List.filter_cons_of_pos (by simpa using plain), split,
      List.cons_append]

/-- The words of the front of a text are in front of words of the whole. -/
theorem exists_prefix_of_mem_wordsOf {cs word : List Char} (rest : List Char)
    (h : word ∈ wordsOf cs) :
    ∃ whole ∈ wordsOf (cs ++ rest), word <+: whole := by
  fun_induction wordsOf cs with
  | case1 => cases h
  | case2 c cs blank ih =>
    rw [List.cons_append, wordsOf_cons_of_isBlank blank]
    exact ih h
  | case3 c cs plain ih =>
    rw [List.cons_append, wordsOf_cons_of_not_isBlank (by simpa using plain)]
    obtain rfl | h := List.mem_cons.mp h
    · refine ⟨_, List.mem_cons_self, ?_⟩
      rw [List.prefix_cons_inj, List.takeWhile_append]
      split
      · -- the text was cut in this word
        exact (List.takeWhile_prefix _).trans (List.prefix_append _ _)
      · exact List.prefix_rfl
    · -- there is a word behind the first one, so that one ends in front of the cut
      have more : (cs.dropWhile (!isBlank ·)).isEmpty = false := by
        rw [List.isEmpty_eq_false_iff]
        intro none
        rw [none, wordsOf] at h
        cases h
      obtain ⟨whole, member, within⟩ := ih h
      refine ⟨whole, List.mem_cons_of_mem _ ?_, within⟩
      rw [List.dropWhile_append, if_neg (by simp [more])]
      exact member

/-! ## Single spaces -/

/-- The only blanks are single spaces, each between two characters that are not blank. -/
def IsCollapsed (cs : List Char) : Prop :=
  ∀ front c back, cs = front ++ c :: back → isBlank c = true →
    c = ' ' ∧ (∃ left, front.getLast? = some left ∧ isBlank left = false) ∧
      ∃ right, back.head? = some right ∧ isBlank right = false

theorem IsWord.exists_getLast {word : List Char} (h : IsWord word) :
    ∃ last, word.getLast? = some last ∧ isBlank last = false := by
  refine ⟨word.getLast h.ne_nil, List.getLast?_eq_some_getLast h.ne_nil, ?_⟩
  exact h.plain _ (List.getLast_mem h.ne_nil)

/-- One more word and a space in front of a collapsed text. -/
theorem IsCollapsed.cons {word rest : List Char} (collapsed : IsCollapsed rest) (own : IsWord word)
    (head : ∃ first, rest.head? = some first ∧ isBlank first = false) :
    IsCollapsed (word ++ ' ' :: rest) := by
  intro front c back equal blank
  have outside : c ∉ word := by
    intro member
    rw [own.plain c member] at blank
    cases blank
  have place : (front = word ∧ c = ' ' ∧ back = rest) ∨
      ∃ before, front = word ++ ' ' :: before ∧ rest = before ++ c :: back := by
    obtain ⟨before, rfl, behind⟩ | ⟨inner, rfl, behind⟩ := List.append_eq_append_iff.mp equal
    · cases before with
      | nil =>
        obtain ⟨rfl, rfl⟩ := List.cons.inj behind
        exact .inl ⟨List.append_nil word, rfl, rfl⟩
      | cons first before =>
        obtain ⟨rfl, rfl⟩ := List.cons.inj behind
        exact .inr ⟨before, rfl, rfl⟩
    · cases inner with
      | nil =>
        obtain ⟨rfl, rfl⟩ := List.cons.inj behind
        exact .inl ⟨(List.append_nil front).symm, rfl, rfl⟩
      | cons first inner =>
        obtain ⟨rfl, -⟩ := List.cons.inj behind
        exact absurd (by simp) outside
  obtain ⟨rfl, rfl, rfl⟩ | ⟨before, rfl, rfl⟩ := place
  · exact ⟨rfl, own.exists_getLast, head⟩
  · obtain ⟨space, ⟨left, last, plain⟩, right⟩ := collapsed before c back rfl blank
    refine ⟨space, ⟨left, ?_, plain⟩, right⟩
    rw [List.getLast?_append, List.getLast?_cons, last]
    rfl

section

variable {words : List (List Char)} (wf : ∀ word ∈ words, IsWord word)

include wf

theorem wordsOf_intercalate : wordsOf ([' '].intercalate words) = words := by
  induction words with
  | nil => rw [List.intercalate_nil, wordsOf]
  | cons word words ih =>
    obtain ⟨own, others⟩ := List.forall_mem_cons.mp wf
    cases words with
    | nil => rw [List.intercalate_singleton, own.wordsOf_eq]
    | cons next words =>
      rw [List.intercalate_cons_cons, List.append_assoc, List.singleton_append,
        wordsOf_append_cons rfl, own.wordsOf_eq, ih others, List.singleton_append]

theorem filter_intercalate :
    ([' '].intercalate words).filter (!isBlank ·) = words.flatten := by
  rw [← flatten_wordsOf, wordsOf_intercalate wf]

theorem exists_head_intercalate (nonempty : words ≠ []) :
    ∃ first, ([' '].intercalate words).head? = some first ∧ isBlank first = false := by
  cases words with
  | nil => exact absurd rfl nonempty
  | cons word words =>
    obtain ⟨own, -⟩ := List.forall_mem_cons.mp wf
    obtain ⟨c, cs, rfl⟩ := List.exists_cons_of_ne_nil own.ne_nil
    refine ⟨c, ?_, own.plain c List.mem_cons_self⟩
    cases words with
    | nil => rw [List.intercalate_singleton, List.head?_cons]
    | cons next words => rw [List.intercalate_cons_cons, List.cons_append, List.cons_append,
        List.head?_cons]

/-- A text with single spaces between words is collapsed. -/
theorem isCollapsed_intercalate : IsCollapsed ([' '].intercalate words) := by
  induction words with
  | nil =>
    intro front c back equal
    rw [List.intercalate_nil] at equal
    exact absurd equal.symm (List.append_ne_nil_of_right_ne_nil _ (List.cons_ne_nil _ _))
  | cons word words ih =>
    obtain ⟨own, others⟩ := List.forall_mem_cons.mp wf
    cases words with
    | nil =>
      intro front c back equal blank
      rw [List.intercalate_singleton] at equal
      rw [own.plain c (by simp [equal])] at blank
      cases blank
    | cons next words =>
      rw [List.intercalate_cons_cons, List.append_assoc, List.singleton_append]
      exact (ih others).cons own (exists_head_intercalate others (List.cons_ne_nil _ _))

end

/-! ## Texts and their words -/

theorem toList_intercalate_words (s : String) :
    (" ".intercalate (words s)).toList = [' '].intercalate (wordsOf s.toList) := by
  rw [String.toList_intercalate, words, List.map_map]
  simp [Function.comp_def]

@[simp]
theorem words_empty : words "" = [] := by
  rw [words, String.toList_empty, wordsOf, List.map_nil]

theorem isWord_of_mem_words {s word : String} (h : word ∈ words s) : IsWord word.toList := by
  obtain ⟨cs, member, rfl⟩ := List.mem_map.mp h
  rw [String.toList_ofList]
  exact isWord_of_mem_wordsOf member

/-- The words of a text that is cut off are in front of words of the whole text. -/
theorem exists_prefix_of_mem_words_take {s word : String} {limit : Nat}
    (h : word ∈ words (String.ofList (s.toList.take limit))) :
    ∃ whole ∈ words s, word.toList <+: whole.toList := by
  rw [words, String.toList_ofList] at h
  obtain ⟨cs, member, rfl⟩ := List.mem_map.mp h
  obtain ⟨whole, inside, front⟩ := exists_prefix_of_mem_wordsOf (s.toList.drop limit) member
  rw [List.take_append_drop] at inside
  refine ⟨String.ofList whole, List.mem_map_of_mem inside, ?_⟩
  rw [String.toList_ofList, String.toList_ofList]
  exact front

@[simp]
theorem words_append_space (s t : String) : words (s ++ (" " ++ t)) = words s ++ words t := by
  have space : (" " ++ t).toList = ' ' :: t.toList := String.toList_append
  rw [words, String.toList_append, space, wordsOf_append_cons rfl, List.map_append, words, words]

@[simp]
theorem words_space_append (s : String) : words (" " ++ s) = words s := by
  have cut := words_append_space "" s
  rwa [String.empty_append, words_empty, List.nil_append] at cut

@[simp]
theorem words_append_single_space (s : String) : words (s ++ " ") = words s := by
  have cut := words_append_space s ""
  rwa [String.append_empty, words_empty, List.append_nil] at cut

theorem words_intercalate {words : List String} (wf : ∀ word ∈ words, IsWord word.toList) :
    Text.words (" ".intercalate words) = words := by
  have all : ∀ word ∈ words.map String.toList, IsWord word := List.forall_mem_map.mpr wf
  rw [Text.words, String.toList_intercalate, show " ".toList = [' '] from rfl,
    wordsOf_intercalate all, List.map_map]
  simp [Function.comp_def]

theorem intercalate_eq_empty_iff {words : List String} (wf : ∀ word ∈ words, IsWord word.toList) :
    " ".intercalate words = "" ↔ words = [] := by
  constructor
  · intro empty
    rw [← words_intercalate wf, empty]
    exact words_empty
  · rintro rfl
    exact String.intercalate_nil

/-- The words of several texts, all of them together or text by text.  A text without words gets
    no space. -/
theorem intercalate_flatten {parts : List (List String)}
    (wf : ∀ words ∈ parts, ∀ word ∈ words, IsWord word.toList) :
    " ".intercalate parts.flatten =
      " ".intercalate ((parts.map " ".intercalate).filter (!·.isEmpty)) := by
  induction parts with
  | nil => rfl
  | cons words parts ih =>
    obtain ⟨own, others⟩ := List.forall_mem_cons.mp wf
    have behind : ∀ word ∈ parts.flatten, IsWord word.toList := by
      intro word h
      obtain ⟨words, member, h⟩ := List.mem_flatten.mp h
      exact others words member word h
    specialize ih others
    rw [List.flatten_cons, List.map_cons]
    by_cases empty : words = []
    · rw [empty, List.nil_append, String.intercalate_nil, List.filter_cons_of_neg (by simp), ih]
    have shown : (" ".intercalate words).isEmpty = false := by
      rw [Bool.eq_false_iff, ne_eq, String.isEmpty_iff, intercalate_eq_empty_iff own]
      exact empty
    rw [List.filter_cons_of_pos (by rw [shown, Bool.not_false])]
    by_cases none : parts.flatten = []
    · -- nothing stands behind these words, so there is no space behind them either
      have skipped : (parts.map " ".intercalate).filter (!·.isEmpty) = [] := by
        rw [List.filter_eq_nil_iff, List.forall_mem_map]
        intro words member
        simp [List.flatten_eq_nil_iff.mp none words member]
      rw [none, skipped, List.append_nil, String.intercalate_singleton]
    · have kept : (parts.map " ".intercalate).filter (!·.isEmpty) ≠ [] := by
        intro skipped
        rw [skipped, String.intercalate_nil, intercalate_eq_empty_iff behind] at ih
        exact none ih
      rw [String.intercalate_append_of_ne_nil empty none, ih, String.intercalate_cons_of_ne_nil kept]

theorem length_le_length_intercalate {texts : List String} {s : String} (h : s ∈ texts) :
    s.length ≤ (" ".intercalate texts).length := by
  induction texts with
  | nil => cases h
  | cons first texts ih =>
    cases texts with
    | nil => rw [List.mem_singleton.mp h, String.intercalate_singleton]
    | cons next texts =>
      rw [String.intercalate_cons_cons, String.length_append, String.length_append]
      obtain rfl | h := List.mem_cons.mp h
      · omega
      · have behind := ih h
        omega

end NoteMarkup.Text
