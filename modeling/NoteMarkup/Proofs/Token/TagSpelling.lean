import NoteMarkup.Proofs.Token.Spelling

/-!
# Spellings of opening tags

One opening tag can be written in many ways: with its names in any case, each value in quotes of
either kind, without quotes or left out, blanks between the parts, and a name repeated.  They are
said without the functions that read them, and `TagSpelling.spells` reads them back.
-/

namespace NoteMarkup

/-! ## Spellings -/

abbrev Blanks : Type :=
  { cs : List Char // ∀ c ∈ cs, Text.isBlank c = true }

namespace Blanks

def of (cs : List Char) (blank : cs.all Text.isBlank = true) : Blanks :=
  ⟨cs, List.all_eq_true.mp blank⟩

def none : Blanks := .of [] rfl

def space : Blanks := .of [' '] rfl

theorem val_space_ne_nil : space.val ≠ [] :=
  List.cons_ne_nil _ _

end Blanks

/-- How the value of an attribute is written behind its name.  There can be blanks on both sides
    of the `=`. -/
inductive ValueSpelling where
  /-- Without a `=` there is no value. -/
  | missing
  /-- The value goes up to the next quote of the same kind. -/
  | quoted (front behind : Blanks) (quote : Char) (raw : List Char)
      (mark : isQuote quote = true) (inside : quote ∉ raw)
  /-- A value without quotes goes up to a blank or a `>`. -/
  | bare (front behind : Blanks) (raw : List Char) (nonempty : raw ≠ [])
      (plain : ∀ c ∈ raw, isBareValueChar c = true) (unquoted : ∀ c ∈ raw.head?, isQuote c = false)

namespace ValueSpelling

def chars : ValueSpelling → List Char
  | missing => []
  | quoted front behind quote raw _ _ => front.val ++ '=' :: (behind.val ++ quote :: (raw ++ [quote]))
  | bare front behind raw _ _ _ => front.val ++ '=' :: (behind.val ++ raw)

def value : ValueSpelling → String
  | missing => ""
  | quoted _ _ _ raw _ _ => Text.unescape (String.ofList raw)
  | bare _ _ raw _ _ _ => Text.unescape (String.ofList raw)

def isBare : ValueSpelling → Bool
  | bare .. => true
  | _ => false

end ValueSpelling

structure AttributeSpelling where
  blanks : Blanks
  apart : blanks.val ≠ []
  name : List Char
  nonempty : name ≠ []
  named : ∀ c ∈ name, isAttributeNameChar c = true
  value : ValueSpelling

namespace AttributeSpelling

def written (attr : AttributeSpelling) : List Char :=
  attr.name ++ attr.value.chars

def chars (attr : AttributeSpelling) : List Char :=
  attr.blanks.val ++ attr.written

def quoted (name : String) (raw : List Char) (nonempty : name.toList ≠ [])
    (named : ∀ c ∈ name.toList, isAttributeNameChar c = true) (inside : '"' ∉ raw) :
    AttributeSpelling where
  blanks := .space
  apart := Blanks.val_space_ne_nil
  name := name.toList
  nonempty := nonempty
  named := named
  value := .quoted .none .none '"' raw rfl inside

def pair (attr : AttributeSpelling) : String × String :=
  (nameOf attr.name, attr.value.value)

end AttributeSpelling

structure TagSpelling where
  /-- A name starts with a letter. -/
  letter : Char
  isAlpha : letter.isAlpha = true
  name : List Char
  named : ∀ c ∈ name, isNameChar c = true
  attributes : List AttributeSpelling
  blanks : Blanks
  selfClosing : Bool
  /-- Directly behind a value without quotes a `/` would be a part of the value. -/
  apart : selfClosing = true → blanks.val = [] →
    ∀ last ∈ attributes.getLast?, last.value.isBare = false

/-- The attributes without those whose name has come before. -/
def firstOfEachName : List (String × String) → List (String × String)
  | [] => []
  | attr :: attributes => attr :: (firstOfEachName attributes).filter (·.1 != attr.1)

def tagEnd (selfClosing : Bool) : List Char :=
  if selfClosing then ['/', '>'] else ['>']

namespace TagSpelling

def chars (tag : TagSpelling) : List Char :=
  '<' :: tag.letter :: (tag.name ++
    (tag.attributes.flatMap AttributeSpelling.chars ++ (tag.blanks.val ++ tagEnd tag.selfClosing)))

def tag (tag : TagSpelling) : String :=
  nameOf (tag.letter :: tag.name)

/-- The attributes that count, in the order in which they are written. -/
def kept (tag : TagSpelling) : List (String × String) :=
  firstOfEachName (tag.attributes.map AttributeSpelling.pair)

end TagSpelling

/-! ## Which attributes count -/

theorem isSome_lookup_iff {attributes : List (String × String)} {name : String} :
    (attributes.lookup name).isSome = true ↔ name ∈ attributes.map Prod.fst := by
  rw [List.lookup_isSome_iff, List.mem_map]
  refine exists_congr fun attr => and_congr_right fun _ => ?_
  exact beq_iff_eq.trans eq_comm

/-- Adding attributes one after the other keeps the first of each name that is not there yet. -/
theorem foldl_addAttribute (attributes found : List (String × String)) :
    attributes.foldl addAttribute found =
      found ++ (firstOfEachName attributes).filter fun attr => attr.1 ∉ found.map Prod.fst := by
  induction attributes generalizing found with
  | nil => simp [firstOfEachName]
  | cons attr attributes ih =>
    rw [List.foldl_cons, ih, firstOfEachName, addAttribute]
    by_cases there : attr.1 ∈ found.map Prod.fst
    · -- a name that is there hides the later ones too
      rw [if_pos (isSome_lookup_iff.mpr there), List.filter_cons_of_neg (by simpa using there),
        List.filter_filter]
      congr 1
      refine List.filter_congr fun other _ => ?_
      by_cases same : other.1 = attr.1
      · simp [same, there]
      · simp [same]
    · rw [if_neg (by rwa [isSome_lookup_iff]), List.filter_cons_of_pos (by simpa using there),
        List.filter_filter, List.append_assoc, List.singleton_append]
      congr 2
      refine List.filter_congr fun other _ => ?_
      by_cases same : other.1 = attr.1
      · simp [same]
      · simp [same, bne_iff_ne.mpr same]

/-- The attributes that count have the values that are found first. -/
theorem lookup_firstOfEachName (attributes : List (String × String)) (name : String) :
    (firstOfEachName attributes).lookup name = attributes.lookup name := by
  have other {found : List (String × String)} {own : String} (ne : name ≠ own) :
      (found.filter (·.1 != own)).lookup name = found.lookup name := by
    induction found with
    | nil => rfl
    | cons attr found ih =>
      by_cases same : attr.1 = own
      · rw [List.filter_cons_of_neg (by simp [same]), ih, List.lookup_cons,
          beq_eq_false_iff_ne.mpr (same ▸ ne)]
      · rw [List.filter_cons_of_pos (by simpa using same), List.lookup_cons, List.lookup_cons, ih]
  induction attributes with
  | nil => rfl
  | cons attr attributes ih =>
    rw [firstOfEachName, List.lookup_cons, List.lookup_cons]
    cases here : name == attr.1 with
    | true => rfl
    | false => exact (other (beq_eq_false_iff_ne.mp here)).trans ih

/-- What can follow an attribute: something that is not blank and no `=`, behind blanks or directly
    where the attribute does not go on with it. -/
def EndsAttribute (bare : Bool) (rest : List Char) : Prop :=
  ∃ (blanks : Blanks) (stop : Char) (behind : List Char), rest = blanks.val ++ stop :: behind ∧
    Text.isBlank stop = false ∧ stop ≠ '=' ∧
    (blanks.val = [] → isAttributeNameChar stop = false ∧ (bare = true → stop = '>'))

theorem not_isBlank_of_isAttributeNameChar {c : Char} (h : isAttributeNameChar c = true) :
    Text.isBlank c = false ∧ c ≠ '=' := by
  simp only [isAttributeNameChar, Bool.and_eq_true, Bool.not_eq_true', bne_iff_ne] at h
  exact ⟨h.1.1.1.1.1, h.1.1.1.1.2⟩

/-- A name of a tag would do as the name of an attribute. -/
theorem isAttributeNameChar_of_isNameChar {c : Char} (h : isNameChar c = true) :
    isAttributeNameChar c = true := by
  cases upper : c.isUpper with
  | false =>
    refine (isAttributeNameChar_of_isLowerNameChar (isLowerNameChar_of_isTagChar ?_)).1
    simpa [isNameChar, isTagChar, Char.isAlphanum, Text.isAlpha_eq, upper] using h
  | true =>
    obtain ⟨low, high⟩ := Text.isUpper_iff.mp upper
    have blank : Text.isBlank c = false := by
      simp only [Text.isBlank, Bool.or_eq_false_iff, Bool.and_eq_false_iff,
        decide_eq_false_iff_not, beq_eq_false_iff_ne]
      omega
    have other : ∀ d : Char, d.toNat < 65 → c ≠ d := by
      rintro d below rfl
      omega
    simp [isAttributeNameChar, blank, other '=' (by decide), other '>' (by decide),
      other '/' (by decide), other '"' (by decide), other '\'' (by decide)]

theorem not_isBlank_of_isBareValueChar {c : Char} (h : isBareValueChar c = true) :
    Text.isBlank c = false := by
  simp only [isBareValueChar, Bool.and_eq_true, Bool.not_eq_true'] at h
  exact h.1

/-- What ends in front of a blank ends in front of blanks and a character that ends it. -/
theorem Blanks.exists_cons (blanks : Blanks) {p : Char → Bool} {stop : Char}
    (blank : ∀ c, Text.isBlank c = true → p c = false) (ends : blanks.val = [] → p stop = false)
    (rest : List Char) :
    ∃ first behind, blanks.val ++ stop :: rest = first :: behind ∧ p first = false := by
  obtain ⟨cs, all⟩ := blanks
  cases cs with
  | nil => exact ⟨stop, rest, rfl, ends rfl⟩
  | cons b cs => exact ⟨b, cs ++ stop :: rest, rfl, blank b (all b List.mem_cons_self)⟩

/-- A value without quotes ends where its attribute does. -/
theorem EndsAttribute.exists_bareEnd {rest : List Char} (ends : EndsAttribute true rest) :
    ∃ stop behind, rest = stop :: behind ∧ isBareValueChar stop = false := by
  obtain ⟨blanks, stop, behind, rfl, -, -, direct⟩ := ends
  refine blanks.exists_cons (fun c blank => ?_) (fun none => ?_) behind
  · simp [isBareValueChar, blank]
  · obtain rfl := (direct none).2 rfl
    rfl

/-- The name of a tag ends in front of its attributes. -/
theorem EndsAttribute.exists_nameEnd {bare : Bool} {rest : List Char}
    (ends : EndsAttribute bare rest) :
    ∃ stop behind, rest = stop :: behind ∧ isNameChar stop = false := by
  have contrary : ∀ c, isAttributeNameChar c = false → isNameChar c = false := by
    intro c other
    rw [Bool.eq_false_iff] at other ⊢
    exact fun named => other (isAttributeNameChar_of_isNameChar named)
  obtain ⟨blanks, stop, behind, rfl, -, -, direct⟩ := ends
  refine blanks.exists_cons (fun c blank => contrary c ?_)
    (fun none => contrary stop (direct none).1) behind
  simp [isAttributeNameChar, blank]

/-- Every spelling of an attribute is read as its name and its value.  Blanks behind an attribute
    without a value are taken with it. -/
theorem readAttribute_spelling (attr : AttributeSpelling) {rest : List Char}
    (ends : EndsAttribute attr.value.isBare rest) :
    ∃ after, Text.trimLeft after = Text.trimLeft rest ∧
      readAttribute (attr.written ++ rest) = .ok (attr.pair, after) := by
  obtain ⟨blanks, apart, name, nonempty, named, value⟩ := attr
  rw [AttributeSpelling.written, AttributeSpelling.pair, List.append_assoc]
  cases value with
  | missing =>
    obtain ⟨⟨gap, blank⟩, stop, behind, rfl, shown, plain, direct⟩ := ends
    refine ⟨stop :: behind, ?_, readAttribute_append_of_ne named blank (fun h => (direct h).1) shown
      plain behind⟩
    rw [Text.trimLeft_cons_of_not_isBlank shown]
    exact (dropWhile_append_cons blank shown).symm
  | quoted front behind quote raw mark inside =>
    refine ⟨rest, rfl, ?_⟩
    have shown : Text.isBlank quote = false := by
      simp only [isQuote, Bool.or_eq_true, beq_iff_eq] at mark
      obtain rfl | rfl := mark <;> rfl
    have trimmed : Text.trimLeft (behind.val ++ quote :: (raw ++ quote :: rest)) =
        quote :: (raw ++ quote :: rest) := dropWhile_append_cons behind.property shown
    have reads := readValue_quoted mark (bne_of_not_mem inside) rest
    rw [← trimmed] at reads
    have whole := readAttribute_append_value named front.property reads
    simpa [ValueSpelling.chars, ValueSpelling.value, Text.unescape, valueOf] using whole
  | bare front behind raw nonemptyRaw plain unquoted =>
    refine ⟨rest, rfl, ?_⟩
    obtain ⟨stop, others, rfl, stops⟩ := ends.exists_bareEnd
    obtain ⟨c, cs, rfl⟩ := List.exists_cons_of_ne_nil nonemptyRaw
    have shown := not_isBlank_of_isBareValueChar (plain c List.mem_cons_self)
    have trimmed : Text.trimLeft (behind.val ++ c :: (cs ++ stop :: others)) =
        c :: (cs ++ stop :: others) := dropWhile_append_cons behind.property shown
    have reads := readValue_bare unquoted plain stops others
    rw [List.cons_append, ← trimmed] at reads
    have whole := readAttribute_append_value named front.property reads
    simpa [ValueSpelling.chars, ValueSpelling.value, Text.unescape, valueOf] using whole

/-- What is written fixes the attribute. -/
theorem AttributeSpelling.pair_eq_of_written_eq {attr other : AttributeSpelling}
    (same : attr.written = other.written) : attr.pair = other.pair := by
  have ends (bare : Bool) : EndsAttribute bare ['>'] :=
    ⟨.none, '>', [], rfl, rfl, by decide, fun _ => ⟨rfl, fun _ => rfl⟩⟩
  obtain ⟨after, -, reads⟩ := readAttribute_spelling attr (ends _)
  obtain ⟨otherAfter, -, otherReads⟩ := readAttribute_spelling other (ends _)
  rw [same, otherReads] at reads
  exact (Prod.mk.inj (Except.ok.inj reads)).1.symm

/-! ## All attributes -/

/-- Behind an attribute comes another one or the end of the tag. -/
theorem endsAttribute_tail {bare : Bool} (attributes : List AttributeSpelling) (blanks : Blanks)
    (selfClosing : Bool) (rest : List Char)
    (apart : attributes = [] → selfClosing = true → blanks.val = [] → bare = false) :
    EndsAttribute bare
      (attributes.flatMap AttributeSpelling.chars ++ (blanks.val ++ (tagEnd selfClosing ++ rest))) := by
  cases attributes with
  | nil =>
    cases selfClosing with
    | false => exact ⟨blanks, '>', rest, rfl, rfl, by decide, fun _ => ⟨rfl, fun _ => rfl⟩⟩
    | true =>
      refine ⟨blanks, '/', '>' :: rest, rfl, rfl, by decide, fun none => ⟨rfl, fun isBare => ?_⟩⟩
      rw [apart rfl rfl none] at isBare
      cases isBare
  | cons attr attributes =>
    obtain ⟨gap, between, name, nonempty, named, value⟩ := attr
    obtain ⟨c, cs, rfl⟩ := List.exists_cons_of_ne_nil nonempty
    obtain ⟨shown, plain⟩ := not_isBlank_of_isAttributeNameChar (named c List.mem_cons_self)
    refine ⟨gap, c, cs ++ (value.chars ++ (attributes.flatMap AttributeSpelling.chars ++
      (blanks.val ++ (tagEnd selfClosing ++ rest)))), ?_, shown, plain,
      fun none => absurd none between⟩
    rw [List.flatMap_cons, AttributeSpelling.chars, AttributeSpelling.written, List.append_assoc,
      List.append_assoc, List.append_assoc, List.cons_append]

theorem AttributeSpelling.trimLeft_chars (attr : AttributeSpelling) (rest : List Char) :
    ∃ c inner, isAttributeNameChar c = true ∧ attr.written ++ rest = c :: inner ∧
      Text.trimLeft (attr.chars ++ rest) = c :: inner := by
  obtain ⟨blanks, apart, name, nonempty, named, value⟩ := attr
  obtain ⟨c, cs, rfl⟩ := List.exists_cons_of_ne_nil nonempty
  have letter := named c List.mem_cons_self
  refine ⟨c, cs ++ (value.chars ++ rest), letter, ?_, ?_⟩
  · rw [AttributeSpelling.written, List.append_assoc, List.cons_append]
  · rw [AttributeSpelling.chars, AttributeSpelling.written, List.append_assoc, List.append_assoc,
      List.cons_append]
    exact dropWhile_append_cons blanks.property (not_isBlank_of_isAttributeNameChar letter).1

/-- Every spelling of a list of attributes is read as the attributes, up to the end of the tag. -/
theorem readAttributes_spelling (attributes : List AttributeSpelling) (blanks : Blanks)
    (selfClosing : Bool) (rest : List Char)
    (apart : selfClosing = true → blanks.val = [] →
      ∀ last ∈ attributes.getLast?, last.value.isBare = false)
    (found : List (String × String)) {cs : List Char}
    (front : Text.trimLeft cs = Text.trimLeft
      (attributes.flatMap AttributeSpelling.chars ++ (blanks.val ++ (tagEnd selfClosing ++ rest)))) :
    readAttributes found cs =
      .ok ((attributes.map AttributeSpelling.pair).foldl addAttribute found, selfClosing, rest) := by
  -- the blanks in front of the next attribute may be gone, so only what follows them is fixed
  induction attributes generalizing found cs with
  | nil =>
    cases selfClosing with
    | false =>
      exact readAttributes_of_close (front.trans (dropWhile_append_cons blanks.property rfl))
    | true =>
      exact readAttributes_of_selfClose (front.trans (dropWhile_append_cons blanks.property rfl))
  | cons attr attributes ih =>
    rw [List.flatMap_cons, List.append_assoc] at front
    obtain ⟨c, inner, letter, written, trimmed⟩ := attr.trimLeft_chars
      (attributes.flatMap AttributeSpelling.chars ++ (blanks.val ++ (tagEnd selfClosing ++ rest)))
    have ends : EndsAttribute attr.value.isBare
        (attributes.flatMap AttributeSpelling.chars ++ (blanks.val ++ (tagEnd selfClosing ++ rest))) := by
      refine endsAttribute_tail attributes blanks selfClosing rest fun last closes none => ?_
      subst last
      exact apart closes none attr rfl
    obtain ⟨after, same, reads⟩ := readAttribute_spelling attr ends
    rw [written] at reads
    rw [readAttributes_attribute (front.trans trimmed) letter reads, List.map_cons, List.foldl_cons]
    refine ih (fun closes none last isLast => apart closes none last ?_) _ same
    rw [List.getLast?_cons, isLast]
    rfl

/-- Every spelling of an opening tag is read as the tag that it stands for. -/
theorem TagSpelling.spells (tag : TagSpelling) :
    Spells tag.chars (.opening tag.tag tag.kept tag.selfClosing) := by
  have named : ∀ c ∈ tag.letter :: tag.name, isNameChar c = true := by
    refine List.forall_mem_cons.mpr ⟨?_, tag.named⟩
    simp [isNameChar, Char.isAlphanum, tag.isAlpha]
  have attributes := readAttributes_spelling tag.attributes tag.blanks tag.selfClosing [] tag.apart []
    rfl
  have keptAll : (tag.attributes.map AttributeSpelling.pair).foldl addAttribute [] = tag.kept := by
    rw [foldl_addAttribute, TagSpelling.kept]
    simp
  rw [keptAll, List.append_nil] at attributes
  have ends : EndsAttribute false _ :=
    endsAttribute_tail tag.attributes tag.blanks tag.selfClosing [] fun _ _ _ => rfl
  obtain ⟨stop, behind, shape, stops⟩ := ends.exists_nameEnd
  rw [List.append_nil] at shape
  refine .opening tag.isAlpha ?_
  rw [← List.cons_append, shape, readOpening, takeWhile_append_cons named stops,
    dropWhile_append_cons named stops, ← shape, attributes]
  rfl

end NoteMarkup
