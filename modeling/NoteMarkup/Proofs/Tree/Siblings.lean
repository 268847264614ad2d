import NoteMarkup.Tree.Parser

/-!
# Reading siblings, token by token

`readSiblings` reads siblings without the bound on what follows them, which only says that reading
ends.  There is one equation for each kind of token, so that no proof has to open `siblings`.
-/

namespace NoteMarkup

/-- What reading siblings finds: the nodes, and the tokens that follow or what was wrong. -/
structure Found where
  nodes : List Node
  rest : Except ParseError (List Lexeme)

def Siblings.found {bound : Nat} (s : Siblings bound) : Found :=
  ⟨s.nodes, s.rest.map Subtype.val⟩

/-- Reads sibling nodes, without a bound on what follows them. -/
def readSiblings (size depth : Nat) (open? : Option OpenTag) (lexemes : List Lexeme) : Found :=
  (siblings size depth open? lexemes).found

def Found.prepend (nodes : List Node) (found : Found) : Found :=
  ⟨nodes ++ found.nodes, found.rest⟩

@[simp]
theorem Found.prepend_nil (found : Found) : found.prepend [] = found := rfl

theorem Found.prepend_append (nodes more : List Node) (found : Found) :
    found.prepend (nodes ++ more) = (found.prepend more).prepend nodes := by
  simp [Found.prepend]

@[simp]
theorem Siblings.found_skip {bound : Nat} (s : Siblings bound) : s.skip.found = s.found := by
  cases s with
  | mk nodes rest => cases rest <;> rfl

@[simp]
theorem Siblings.found_cons {small bound : Nat} (node : Node) (s : Siblings small)
    (h : small ≤ bound) : (s.cons node h).found = s.found.prepend [node] := by
  cases s with
  | mk nodes rest => cases rest <;> rfl

section

variable {size depth : Nat} {open? : Option OpenTag} {source : List Char} {lexemes : List Lexeme}

theorem readSiblings_nil :
    readSiblings size depth open? [] =
      match open? with
      | none => ⟨[], .ok []⟩
      | some own => ⟨[], .error (.unclosedElement own.tag (offsetOf size own.source))⟩ := by
  cases open? with
  | none => rw [readSiblings, siblings]; rfl
  | some own => rw [readSiblings, siblings]; rfl

theorem readSiblings_text {s : String} :
    readSiblings size depth open? (⟨source, .text s⟩ :: lexemes) =
      (readSiblings size depth open? lexemes).prepend [.text s] := by
  rw [readSiblings, siblings, Siblings.found_cons, readSiblings]

theorem readSiblings_comment :
    readSiblings size depth open? (⟨source, .comment⟩ :: lexemes) =
      readSiblings size depth open? lexemes := by
  rw [readSiblings, siblings, Siblings.found_skip, readSiblings]

theorem readSiblings_declaration :
    readSiblings size depth open? (⟨source, .declaration⟩ :: lexemes) =
      readSiblings size depth open? lexemes := by
  rw [readSiblings, siblings, Siblings.found_skip, readSiblings]

theorem readSiblings_cutOff {inside : Construct} :
    readSiblings size depth open? (⟨source, .cutOff inside⟩ :: lexemes) =
      ⟨[], .error (.unexpectedEnd inside (offsetOf size source))⟩ := by
  rw [readSiblings, siblings]
  rfl

theorem readSiblings_closing {tag : String} :
    readSiblings size depth open? (⟨source, .closing tag⟩ :: lexemes) =
      if open?.map OpenTag.tag = some tag then
        ⟨[], .ok lexemes⟩
      else
        ⟨[], .error (.unmatchedClosingTag tag (open?.map OpenTag.tag) (offsetOf size source))⟩ := by
  rw [readSiblings, siblings]
  split <;> rfl

theorem readSiblings_opening_of_childless {tag : String} {attributes : List (String × String)}
    {selfClosing : Bool} (h : (selfClosing || isVoidTag tag) = true) :
    readSiblings size depth open? (⟨source, .opening tag attributes selfClosing⟩ :: lexemes) =
      (readSiblings size depth open? lexemes).prepend [.element ⟨tag, attributes, []⟩] := by
  rw [readSiblings, siblings]
  simp only [h, if_true, Siblings.found_cons, readSiblings]

theorem readSiblings_opening_of_maxDepth_le {tag : String} {attributes : List (String × String)}
    {selfClosing : Bool} (h : (selfClosing || isVoidTag tag) = false) (hdepth : maxDepth ≤ depth) :
    readSiblings size depth open? (⟨source, .opening tag attributes selfClosing⟩ :: lexemes) =
      ⟨[], .error (.nestingTooDeep (offsetOf size source))⟩ := by
  rw [readSiblings, siblings]
  simp only [h, Bool.false_eq_true, if_false, if_pos hdepth]
  rfl

/-- The content of an element is read up to its closing tag, then what follows the element. -/
theorem readSiblings_opening_of_ok {tag : String} {attributes : List (String × String)}
    {selfClosing : Bool} (h : (selfClosing || isVoidTag tag) = false) (hdepth : depth < maxDepth)
    {rest : List Lexeme}
    (hrest : (readSiblings size (depth + 1) (some ⟨tag, source⟩) lexemes).rest = .ok rest) :
    readSiblings size depth open? (⟨source, .opening tag attributes selfClosing⟩ :: lexemes) =
      (readSiblings size depth open? rest).prepend [.element ⟨tag, attributes,
        (readSiblings size (depth + 1) (some ⟨tag, source⟩) lexemes).nodes⟩] := by
  rw [readSiblings, siblings]
  simp only [h, Bool.false_eq_true, if_false, if_neg (Nat.not_le.mpr hdepth)]
  simp only [readSiblings, Siblings.found] at hrest ⊢
  split
  · rename_i e he
    rw [he] at hrest
    cases hrest
  · rename_i last hlast hok
    rw [hok] at hrest
    cases hrest
    exact Siblings.found_cons _ _ hlast

/-- What is wrong inside an element stays wrong, and the element is kept as far as it goes. -/
theorem readSiblings_opening_of_error {tag : String} {attributes : List (String × String)}
    {selfClosing : Bool} (h : (selfClosing || isVoidTag tag) = false) (hdepth : depth < maxDepth)
    {e : ParseError}
    (herror : (readSiblings size (depth + 1) (some ⟨tag, source⟩) lexemes).rest = .error e) :
    readSiblings size depth open? (⟨source, .opening tag attributes selfClosing⟩ :: lexemes) =
      ⟨[.element ⟨tag, attributes,
        (readSiblings size (depth + 1) (some ⟨tag, source⟩) lexemes).nodes⟩], .error e⟩ := by
  rw [readSiblings, siblings]
  simp only [h, Bool.false_eq_true, if_false, if_neg (Nat.not_le.mpr hdepth)]
  simp only [readSiblings, Siblings.found] at herror ⊢
  split
  · rename_i other hother
    rw [hother] at herror
    cases herror
    simp [Except.map]
  · rename_i last hlast hok
    rw [hok] at herror
    cases herror

end

/-! ## Induction along reading -/

/-- Reading siblings goes through the tokens in this order: after an element comes what follows
    its closing tag, so the content and the rest each have a hypothesis. -/
@[elab_as_elim]
theorem readSiblings_induct (size : Nat) {motive : Nat → Option OpenTag → List Lexeme → Prop}
    (atEnd : ∀ depth open?, motive depth open? [])
    (text : ∀ depth open? source s lexemes, motive depth open? lexemes →
      motive depth open? (⟨source, .text s⟩ :: lexemes))
    (comment : ∀ depth open? source lexemes, motive depth open? lexemes →
      motive depth open? (⟨source, .comment⟩ :: lexemes))
    (declaration : ∀ depth open? source lexemes, motive depth open? lexemes →
      motive depth open? (⟨source, .declaration⟩ :: lexemes))
    (cutOff : ∀ depth open? source inside lexemes,
      motive depth open? (⟨source, .cutOff inside⟩ :: lexemes))
    (closing : ∀ depth open? source tag lexemes,
      motive depth open? (⟨source, .closing tag⟩ :: lexemes))
    (childless : ∀ depth open? source tag attributes selfClosing lexemes,
      (selfClosing || isVoidTag tag) = true → motive depth open? lexemes →
      motive depth open? (⟨source, .opening tag attributes selfClosing⟩ :: lexemes))
    (tooDeep : ∀ depth open? source tag attributes selfClosing lexemes,
      (selfClosing || isVoidTag tag) = false → maxDepth ≤ depth →
      motive depth open? (⟨source, .opening tag attributes selfClosing⟩ :: lexemes))
    (unfinished : ∀ depth open? source tag attributes selfClosing lexemes e,
      (selfClosing || isVoidTag tag) = false → depth < maxDepth →
      (readSiblings size (depth + 1) (some ⟨tag, source⟩) lexemes).rest = .error e →
      motive (depth + 1) (some ⟨tag, source⟩) lexemes →
      motive depth open? (⟨source, .opening tag attributes selfClosing⟩ :: lexemes))
    (element : ∀ depth open? source tag attributes selfClosing lexemes rest,
      (selfClosing || isVoidTag tag) = false → depth < maxDepth →
      (readSiblings size (depth + 1) (some ⟨tag, source⟩) lexemes).rest = .ok rest →
      motive (depth + 1) (some ⟨tag, source⟩) lexemes → motive depth open? rest →
      motive depth open? (⟨source, .opening tag attributes selfClosing⟩ :: lexemes))
    (depth : Nat) (open? : Option OpenTag) (lexemes : List Lexeme) : motive depth open? lexemes := by
  induction depth, open?, lexemes using siblings.induct size with
  | case1 depth => exact atEnd depth none
  | case2 depth own => exact atEnd depth (some own)
  | case3 depth open? source lexemes s ih => exact text depth open? source s lexemes ih
  | case4 depth open? source lexemes ih => exact comment depth open? source lexemes ih
  | case5 depth open? source lexemes ih => exact declaration depth open? source lexemes ih
  | case6 depth open? source lexemes inside => exact cutOff depth open? source inside lexemes
  | case7 depth open? source lexemes tag | case8 depth open? source lexemes tag =>
    exact closing depth open? source tag lexemes
  | case9 depth open? source lexemes tag attributes selfClosing h ih =>
    exact childless depth open? source tag attributes selfClosing lexemes h ih
  | case10 depth open? source lexemes tag attributes selfClosing h hle =>
    exact tooDeep depth open? source tag attributes selfClosing lexemes (by simpa using h) hle
  | case11 depth open? source lexemes tag attributes selfClosing h hlt inner e herror ih =>
    refine unfinished depth open? source tag attributes selfClosing lexemes e (by simpa using h)
      (Nat.lt_of_not_le hlt) ?_ ih
    rw [readSiblings, Siblings.found, herror]
    rfl
  | case12 depth open? source lexemes tag attributes selfClosing h hlt inner rest hle hok ih ihRest =>
    refine element depth open? source tag attributes selfClosing lexemes rest (by simpa using h)
      (Nat.lt_of_not_le hlt) ?_ ih ihRest
    rw [readSiblings, Siblings.found, hok]
    rfl

theorem parse_eq (markup : String) :
    parse markup =
      ⟨rootTag, [], (readSiblings markup.length 0 none (lexemes markup)).nodes⟩ := by
  unfold parse read
  simp only [readSiblings, Siblings.found]
  split <;> rfl

theorem parseStrict_eq (markup : String) :
    parseStrict markup =
      (readSiblings markup.length 0 none (lexemes markup)).rest.map fun _ => parse markup := by
  unfold parseStrict read
  simp only [readSiblings, Siblings.found]
  cases (siblings markup.length 0 none (lexemes markup)).rest <;> rfl

theorem parse_of_parseStrict_eq_ok {markup : String} {root : Element}
    (h : parseStrict markup = .ok root) : parse markup = root := by
  rw [parseStrict_eq] at h
  cases rest : (readSiblings markup.length 0 none (lexemes markup)).rest with
  | error e =>
    rw [rest] at h
    cases h
  | ok after =>
    rw [rest] at h
    exact Except.ok.inj h

end NoteMarkup
