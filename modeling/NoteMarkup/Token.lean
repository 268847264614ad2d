import NoteMarkup.Text.Blank
import NoteMarkup.Text.Entity

/-!
# Tokens of markup

Markup is cut from the left into tokens.  What a token is depends only on the
characters in front, never on the elements that are open.

- `readToken` reads the token in front of a text;
- `lexemes` cuts a whole text into tokens with their places;
- `Construct` names what the end of the input can cut off.

A `<` starts markup in front of a letter, `/`, `!` or `?`; any other `<` is
character data like the rest.
-/

namespace NoteMarkup

/-! ## Tokens -/

/-- A construct that needs a closing mark, and that the end of the input can cut off. -/
inductive Construct where
  | tag
  | closingTag
  | attributeValue
  deriving Repr, DecidableEq, Inhabited

/-- A token of markup.  Names are in lower case and entities have been read. -/
inductive Token where
  | text (s : String)
  | comment
  | declaration
  | opening (tag : String) (attributes : List (String × String)) (selfClosing : Bool)
  | closing (tag : String)
  | cutOff (inside : Construct)
  deriving Repr, DecidableEq, Inhabited

/-- A token and what the input holds from its start on.  A construct that is cut off has its
    place at the end of the input. -/
structure Lexeme where
  source : List Char
  token : Token
  deriving Repr, DecidableEq, Inhabited

/-! ## Names and values -/

def isNameChar (c : Char) : Bool :=
  c.isAlphanum || c == '-' || c == '_' || c == ':'

def isAttributeNameChar (c : Char) : Bool :=
  !Text.isBlank c && c != '=' && c != '>' && c != '/' && c != '"' && c != '\''

/-- A character of an attribute value that stands without quotes. -/
def isBareValueChar (c : Char) : Bool :=
  !Text.isBlank c && c != '>'

/-- A name as it is kept: its ASCII letters in lower case. -/
def nameOf (cs : List Char) : String :=
  String.ofList (cs.map Char.toLower)

/-- The text that character data or an attribute value stands for. -/
def valueOf (cs : List Char) : String :=
  String.ofList (Text.unescapeChars cs)

/-- Reads an attribute value, in quotes of either kind or without, and returns what
    follows it. -/
def readValue : List Char → Except Construct (String × List Char)
  | [] => .ok ("", [])
  | c :: cs =>
    if c == '"' || c == '\'' then
      -- without a second quote of its kind the value is cut off
      match cs.dropWhile (· != c) with
      | [] => .error .attributeValue
      | _ :: rest => .ok (valueOf (cs.takeWhile (· != c)), rest)
    else
      .ok (valueOf ((c :: cs).takeWhile isBareValueChar), (c :: cs).dropWhile isBareValueChar)

/-- Reads an attribute, whose value is empty unless a `=` follows its name, and returns what
    follows it. -/
def readAttribute (cs : List Char) : Except Construct ((String × String) × List Char) :=
  let name := nameOf (cs.takeWhile isAttributeNameChar)
  match Text.trimLeft (cs.dropWhile isAttributeNameChar) with
  | '=' :: rest => do
    let (value, rest) ← readValue (Text.trimLeft rest)
    return ((name, value), rest)
  | rest => .ok ((name, ""), rest)

/-- Adds an attribute at the end, unless its name is already there. -/
def addAttribute (attributes : List (String × String)) (attr : String × String) :
    List (String × String) :=
  if (attributes.lookup attr.1).isSome then attributes else attributes ++ [attr]

/-! ## Rests get shorter -/

theorem length_rest_readValue {cs rest : List Char} {value : String}
    (h : readValue cs = .ok (value, rest)) : rest.length ≤ cs.length := by
  cases cs with
  | nil => simp_all [readValue]
  | cons c cs =>
    simp only [readValue] at h
    split at h
    · split at h
      · simp at h
      · rename_i dropped
        have := Text.length_dropWhile_le (· != c) cs
        simp_all
        omega
    · have := Text.length_dropWhile_le isBareValueChar (c :: cs)
      simp_all

theorem length_rest_readAttribute {c : Char} {cs rest : List Char} {attr : String × String}
    (hc : isAttributeNameChar c = true)
    (h : readAttribute (c :: cs) = .ok (attr, rest)) : rest.length ≤ cs.length := by
  simp only [readAttribute, List.dropWhile_cons_of_pos hc] at h
  have hname := Text.length_dropWhile_le isAttributeNameChar cs
  have htrim := Text.length_trimLeft_le (cs.dropWhile isAttributeNameChar)
  split at h
  · rename_i after heq
    rw [heq] at htrim
    have hblank := Text.length_trimLeft_le after
    cases hv : readValue (Text.trimLeft after) with
    | error e => simp [hv, bind, Except.bind] at h
    | ok result =>
      have := length_rest_readValue hv
      simp [hv, bind, Except.bind, pure, Except.pure] at h
      simp at htrim
      rw [← h.2]
      omega
  · simp only [Except.ok.injEq, Prod.mk.injEq] at h
    rw [← h.2]
    omega

/-! ## Reading tokens -/

/-- Reads the rest of an opening tag behind its name: the attributes, of which the first of a
    name counts, up to `>` or `/>`.  Returns whether the tag closes itself, and what follows
    it.  A character that fits nothing is skipped. -/
def readAttributes (attributes : List (String × String)) (cs : List Char) :
    Except Construct (List (String × String) × Bool × List Char) :=
  match _h : Text.trimLeft cs with
  | [] => .error .tag
  | '>' :: rest => .ok (attributes, false, rest)
  | '/' :: '>' :: rest => .ok (attributes, true, rest)
  | c :: rest =>
    if _hc : isAttributeNameChar c then
      match _hr : readAttribute (c :: rest) with
      | .error construct => .error construct
      | .ok (attr, after) => readAttributes (addAttribute attributes attr) after
    else
      readAttributes attributes rest
termination_by cs.length
decreasing_by
  all_goals
    have hlen := Text.length_trimLeft_le cs
    rw [_h] at hlen
    simp only [List.length_cons] at hlen
  · have := length_rest_readAttribute _hc _hr
    omega
  · omega

/-- Reads an opening tag behind its `<`. -/
def readOpening (cs : List Char) : Except Construct (Token × List Char) := do
  let (attributes, selfClosing, rest) ← readAttributes [] (cs.dropWhile isNameChar)
  return (.opening (nameOf (cs.takeWhile isNameChar)) attributes selfClosing, rest)

def readClosing (cs : List Char) : Except Construct (Token × List Char) :=
  match (cs.dropWhile isNameChar).dropWhile (· != '>') with
  | [] => .error .closingTag
  | _ :: rest => .ok (.closing (nameOf (cs.takeWhile isNameChar)), rest)

/-- What follows a comment, given what follows its `<!--`.  A comment that is never closed
    takes all the rest. -/
def afterComment : List Char → List Char
  | '-' :: '-' :: '>' :: cs => cs
  | _ :: cs => afterComment cs
  | [] => []

/-- What follows a declaration, given what follows its first two characters.  A declaration
    that is never closed takes all the rest. -/
def afterDeclaration (cs : List Char) : List Char :=
  (cs.dropWhile (· != '>')).tail

/-- Markup starts here: a `<` in front of a letter, `/`, `!` or `?`. -/
def startsMarkup : List Char → Bool
  | '<' :: c :: _ => c.isAlpha || c == '/' || c == '!' || c == '?'
  | _ => false

/-- Cuts off the character data in front of the next markup. -/
def spanText : List Char → List Char × List Char
  | [] => ([], [])
  | c :: cs =>
    if startsMarkup (c :: cs) then
      ([], c :: cs)
    else
      -- a `<` in front of anything else is character data
      let (text, rest) := spanText cs
      (c :: text, rest)

def readText (cs : List Char) : Token × List Char :=
  let (text, rest) := spanText cs
  (.text (valueOf text), rest)

/-- Reads the token in front of a text that is not empty, and returns what follows it. -/
def readToken : List Char → Except Construct (Token × List Char)
  | '<' :: '/' :: cs => readClosing cs
  | '<' :: '!' :: '-' :: '-' :: cs => .ok (.comment, afterComment cs)
  | '<' :: '!' :: cs => .ok (.declaration, afterDeclaration cs)
  | '<' :: '?' :: cs => .ok (.declaration, afterDeclaration cs)
  | '<' :: c :: cs => if c.isAlpha then readOpening (c :: cs) else .ok (readText ('<' :: c :: cs))
  | cs => .ok (readText cs)

/-! ## Every token takes a character -/

theorem length_rest_readAttributes {attributes found : List (String × String)}
    {cs rest : List Char} {selfClosing : Bool}
    (h : readAttributes attributes cs = .ok (found, selfClosing, rest)) :
    rest.length ≤ cs.length := by
  fun_induction readAttributes attributes cs with
  | case1 => simp at h
  | case2 attributes cs rest' heq =>
    have hlen := Text.length_trimLeft_le cs
    simp_all
    omega
  | case3 attributes cs rest' heq =>
    have hlen := Text.length_trimLeft_le cs
    simp_all
    omega
  | case4 => simp at h
  | case5 attributes cs c rest' _ _ heq hc attr after hr ih =>
    have hlen := Text.length_trimLeft_le cs
    have := length_rest_readAttribute hc hr
    have := ih h
    rw [heq] at hlen
    simp only [List.length_cons] at hlen
    omega
  | case6 attributes cs c rest' _ _ heq hc ih =>
    have hlen := Text.length_trimLeft_le cs
    have := ih h
    rw [heq] at hlen
    simp only [List.length_cons] at hlen
    omega

theorem length_afterComment_le (cs : List Char) : (afterComment cs).length ≤ cs.length := by
  fun_induction afterComment cs with
  | case1 => simp; omega
  | case2 _ _ _ ih => simp; omega
  | case3 => simp

theorem length_afterDeclaration_le (cs : List Char) :
    (afterDeclaration cs).length ≤ cs.length := by
  have := Text.length_dropWhile_le (· != '>') cs
  simp [afterDeclaration]
  omega

theorem length_spanText_le (cs : List Char) : (spanText cs).2.length ≤ cs.length := by
  fun_induction spanText cs with
  | case1 => simp
  | case2 => simp
  | case3 c cs _ text rest heq ih => simp_all; omega

theorem length_readText_lt {cs : List Char} (hne : cs ≠ []) (h : startsMarkup cs = false) :
    (readText cs).2.length < cs.length := by
  cases cs with
  | nil => simp at hne
  | cons c cs =>
    have := length_spanText_le cs
    simp [readText, spanText, h]
    omega

/-- Every token takes at least one character. -/
theorem length_rest_readToken {c : Char} {cs rest : List Char} {token : Token}
    (h : readToken (c :: cs) = .ok (token, rest)) : rest.length < (c :: cs).length := by
  generalize hs : c :: cs = s at h ⊢
  have hne : s ≠ [] := by simp [← hs]
  clear hs
  unfold readToken at h
  split at h
  · rename_i cs
    simp only [readClosing] at h
    split at h
    · simp at h
    · rename_i heq
      have h1 := Text.length_dropWhile_le isNameChar cs
      have h2 := Text.length_dropWhile_le (· != '>') (cs.dropWhile isNameChar)
      simp_all
      omega
  · rename_i cs
    have := length_afterComment_le cs
    simp_all
    omega
  · rename_i cs _
    have := length_afterDeclaration_le cs
    simp_all
    omega
  · rename_i cs
    have := length_afterDeclaration_le cs
    simp_all
    omega
  · rename_i d cs h1 h2 h3 h4
    split at h
    · simp only [readOpening] at h
      cases ha : readAttributes [] ((d :: cs).dropWhile isNameChar) with
      | error e => simp [ha, bind, Except.bind] at h
      | ok result =>
        obtain ⟨found, selfClosing, after⟩ := result
        have := length_rest_readAttributes ha
        have := Text.length_dropWhile_le isNameChar (d :: cs)
        simp [ha, bind, Except.bind, pure, Except.pure] at h
        rw [← h.2]
        simp only [List.length_cons] at *
        omega
    · have hlt : (readText ('<' :: d :: cs)).2.length < ('<' :: d :: cs).length :=
        length_readText_lt (by simp) (by simp_all [startsMarkup])
      simp only [Except.ok.injEq] at h
      rw [h] at hlt
      exact hlt
  · have := length_readText_lt hne (by
      unfold startsMarkup
      split
      · rename_i d cs h1 h2 h3 h4 h5
        exact absurd rfl (h5 d cs)
      · rfl)
    simp only [Except.ok.injEq] at h
    rw [h] at this
    exact this

/-! ## Cutting a text into tokens -/

/-- The tokens of a text, with their places. -/
def lexemesOf (cs : List Char) : List Lexeme :=
  match cs with
  | [] => []
  | c :: cs =>
    match _h : readToken (c :: cs) with
    | .error construct => [⟨[], .cutOff construct⟩]
    | .ok (token, rest) => ⟨c :: cs, token⟩ :: lexemesOf rest
termination_by cs.length
decreasing_by exact length_rest_readToken _h

def lexemes (markup : String) : List Lexeme :=
  lexemesOf markup.toList

end NoteMarkup
