import NoteMarkup.Proofs.Token.Cut
import NoteMarkup.Proofs.Tree.Parsed
import NoteMarkup.Proofs.Tree.Place

/-!
# The shape of trees that are read

Where elements and texts can stand in a tree that was read, from any text and also where reading
stopped at an error (`shape_parse`).
-/

namespace NoteMarkup

/-! ## Depth -/

structure ElementPlace.IsShallow (place : ElementPlace) : Prop where
  depth : place.around.length ≤ 512
  deepest : place.around.length = 512 → place.element.children = []

/-- An element is as deep as the nodes it stands among, and what it holds is one deeper. -/
theorem isShallow_singleton {around : List Element} {tag : String}
    {attributes : List (String × String)} {children : List Node}
    (own : ElementPlace.IsShallow ⟨around, ⟨tag, attributes, children⟩⟩)
    (inner : ∀ place ∈ placesOf (⟨tag, attributes, children⟩ :: around) children, place.IsShallow) :
    ∀ place ∈ placesOf around [.element ⟨tag, attributes, children⟩], place.IsShallow := by
  rw [placesOf, placesOf, List.append_nil, Node.places, Element.placesIn]
  exact List.forall_mem_cons.mpr ⟨own, inner⟩

theorem isShallow_prepend {around : List Element} {nodes : List Node} {found : Found}
    (own : ∀ place ∈ placesOf around nodes, place.IsShallow)
    (behind : ∀ place ∈ placesOf around found.nodes, place.IsShallow) :
    ∀ place ∈ placesOf around (found.prepend nodes).nodes, place.IsShallow := by
  rw [Found.prepend, placesOf_append]
  exact List.forall_mem_append.mpr ⟨own, behind⟩

/-- Siblings that are read inside `depth` elements are not deeper than that many allow. -/
theorem isShallow_readSiblings (size depth : Nat) (open? : Option OpenTag) (lexemes : List Lexeme)
    (bound : depth ≤ maxDepth) :
    ∀ around : List Element, around.length = depth →
      ∀ place ∈ placesOf around (readSiblings size depth open? lexemes).nodes, place.IsShallow := by
  have none : ∀ around : List Element, ∀ place ∈ placesOf around [], place.IsShallow :=
    fun _ _ h => (List.not_mem_nil h).elim
  induction depth, open?, lexemes using readSiblings_induct size with
  | atEnd depth open? =>
    intro around _
    rw [readSiblings_nil]
    cases open? <;> exact none around
  | text depth open? source s lexemes ih =>
    intro around inside
    rw [readSiblings_text]
    exact isShallow_prepend (none around) (ih bound around inside)
  | comment depth open? source lexemes ih =>
    rw [readSiblings_comment]
    exact ih bound
  | declaration depth open? source lexemes ih =>
    rw [readSiblings_declaration]
    exact ih bound
  | cutOff depth open? source inside lexemes =>
    intro around _
    rw [readSiblings_cutOff]
    exact none around
  | closing depth open? source tag lexemes =>
    intro around _
    rw [readSiblings_closing]
    split <;> exact none around
  | childless depth open? source tag attributes selfClosing lexemes h ih =>
    intro around inside
    rw [readSiblings_opening_of_childless h]
    have own : ElementPlace.IsShallow ⟨around, ⟨tag, attributes, []⟩⟩ :=
      ⟨inside ▸ bound, fun _ => rfl⟩
    exact isShallow_prepend (isShallow_singleton own (none _)) (ih bound around inside)
  | tooDeep depth open? source tag attributes selfClosing lexemes h hle =>
    intro around _
    rw [readSiblings_opening_of_maxDepth_le h hle]
    exact none around
  | unfinished depth open? source tag attributes selfClosing lexemes e h hlt herror ih =>
    intro around inside
    rw [readSiblings_opening_of_error h hlt herror]
    refine isShallow_singleton ⟨inside ▸ bound, fun deepest => ?_⟩
      (ih hlt _ (congrArg (· + 1) inside))
    exact absurd (inside.symm.trans deepest) (Nat.ne_of_lt hlt)
  | element depth open? source tag attributes selfClosing lexemes rest h hlt hok ih ihRest =>
    intro around inside
    rw [readSiblings_opening_of_ok h hlt hok]
    refine isShallow_prepend (isShallow_singleton ⟨inside ▸ bound, fun deepest => ?_⟩
      (ih hlt _ (congrArg (· + 1) inside))) (ihRest bound around inside)
    exact absurd (inside.symm.trans deepest) (Nat.ne_of_lt hlt)

/-! ## Texts -/

structure KeepsApart (lexemes : List Lexeme) : Prop where
  kept : ∀ lexeme ∈ lexemes, lexeme.token.isSkipped = false
  apart : lexemes.IsChain fun left right => left.token.isText = true → right.token.isText = false

theorem KeepsApart.suffix {lexemes rest : List Lexeme} (keeps : KeepsApart lexemes)
    (suffix : rest <:+ lexemes) : KeepsApart rest :=
  ⟨fun lexeme h => keeps.kept lexeme (suffix.subset h), keeps.apart.suffix suffix⟩

/-- In markup without `<!` and `<?` no token is skipped. -/
theorem keepsApart_lexemes {markup : String} (noComment : ¬ ['<', '!'] <:+: markup.toList)
    (noDeclaration : ¬ ['<', '?'] <:+: markup.toList) : KeepsApart (lexemes markup) := by
  have cut : Cuts 0 markup.toList (piecesOf markup) := cuts_markup_iff.mpr rfl
  constructor
  · intro lexeme member
    rw [Bool.eq_false_iff]
    intro skipped
    obtain ⟨mark, rfl | rfl, inside⟩ := cut.exists_mark _ (List.mem_map_of_mem member) skipped
    · exact noComment inside
    · exact noDeclaration inside
  · exact (List.isChain_map _).mp cut.textsApart

/-- What was found from the tokens: texts stand apart, and the first node is a text only where the
    first token is. -/
structure FoundApart (found : Found) (lexemes : List Lexeme) : Prop where
  separated : Separated found.nodes
  first : (∃ node ∈ found.nodes.head?, node.isText = true) →
    ∃ lexeme ∈ lexemes.head?, lexeme.token.isText = true

theorem FoundApart.nothing {lexemes : List Lexeme} {rest : Except ParseError (List Lexeme)} :
    FoundApart ⟨[], rest⟩ lexemes :=
  ⟨⟨List.isChain_nil, fun _ h => (List.not_mem_nil h).elim⟩, fun ⟨_, h, _⟩ => by cases h⟩

/-- An element stands apart from whatever is behind it. -/
theorem FoundApart.prepend_element {found : Found} {lexemes rest : List Lexeme} {tag : String}
    {attributes : List (String × String)} {children : List Node} (inner : Separated children)
    (behind : FoundApart found rest) :
    FoundApart (found.prepend [.element ⟨tag, attributes, children⟩]) lexemes := by
  refine ⟨⟨?_, ?_⟩, fun ⟨node, h, text⟩ => ?_⟩
  · exact List.isChain_cons.mpr ⟨fun _ _ text => Bool.noConfusion text, behind.separated.apart⟩
  · exact List.forall_mem_cons.mpr ⟨.element inner.apart inner.inner, behind.separated.inner⟩
  · cases h
    cases text

/-- Siblings that are read from tokens of which none is skipped have their texts apart. -/
theorem separated_readSiblings (size depth : Nat) (open? : Option OpenTag) (lexemes : List Lexeme)
    (wf : ∀ lexeme ∈ lexemes, lexeme.token.WellFormed) (keeps : KeepsApart lexemes) :
    FoundApart (readSiblings size depth open? lexemes) lexemes := by
  induction depth, open?, lexemes using readSiblings_induct size with
  | atEnd depth open? =>
    rw [readSiblings_nil]
    cases open? <;> exact .nothing
  | text depth open? source s lexemes ih =>
    have behind := ih (List.forall_mem_cons.mp wf).2 (keeps.suffix (List.suffix_cons _ _))
    rw [readSiblings_text]
    refine ⟨⟨?_, ?_⟩, fun _ => ⟨_, rfl, rfl⟩⟩
    · -- a text behind this one would have come from a text token behind this one
      refine List.isChain_cons.mpr ⟨fun next first _ => ?_, behind.separated.apart⟩
      rw [Bool.eq_false_iff]
      intro text
      obtain ⟨lexeme, second, other⟩ := behind.first ⟨next, first, text⟩
      have apart := (List.isChain_cons.mp keeps.apart).1 lexeme second rfl
      exact Bool.noConfusion (apart.symm.trans other)
    · exact List.forall_mem_cons.mpr ⟨.text, behind.separated.inner⟩
  | comment depth open? source lexemes ih => cases keeps.kept _ List.mem_cons_self
  | declaration depth open? source lexemes ih => cases keeps.kept _ List.mem_cons_self
  | cutOff depth open? source inside lexemes =>
    rw [readSiblings_cutOff]
    exact .nothing
  | closing depth open? source tag lexemes =>
    rw [readSiblings_closing]
    split <;> exact .nothing
  | childless depth open? source tag attributes selfClosing lexemes h ih =>
    have behind := ih (List.forall_mem_cons.mp wf).2 (keeps.suffix (List.suffix_cons _ _))
    rw [readSiblings_opening_of_childless h]
    exact behind.prepend_element ⟨List.isChain_nil, fun _ h => (List.not_mem_nil h).elim⟩
  | tooDeep depth open? source tag attributes selfClosing lexemes h hle =>
    rw [readSiblings_opening_of_maxDepth_le h hle]
    exact .nothing
  | unfinished depth open? source tag attributes selfClosing lexemes e h hlt herror ih =>
    have inner := ih (List.forall_mem_cons.mp wf).2 (keeps.suffix (List.suffix_cons _ _))
    rw [readSiblings_opening_of_error h hlt herror]
    have nothing : FoundApart ⟨[], .error e⟩ lexemes := .nothing
    exact nothing.prepend_element inner.separated
  | element depth open? source tag attributes selfClosing lexemes rest h hlt hok ih ihRest =>
    have wfLexemes := (List.forall_mem_cons.mp wf).2
    have keepsLexemes := keeps.suffix (List.suffix_cons _ _)
    have inner := ih wfLexemes keepsLexemes
    -- what follows the element comes from the end of the tokens behind its opening tag
    have suffix := (foundWellFormed_readSiblings size _ _ lexemes wfLexemes).rest rest hok
    have behind := ihRest (fun lexeme h => wfLexemes lexeme (suffix.subset h))
      (keepsLexemes.suffix suffix)
    rw [readSiblings_opening_of_ok h hlt hok]
    exact behind.prepend_element inner.separated

/-! ## Whole texts -/

/-- The tree of any text is well-formed, also where reading stopped at an error: its tags and the
    names of attributes are names that reading keeps, no tag has two attributes of one name, void
    elements have no content and no text is empty.  Every element stands in at most 512 others, and
    has no content if it stands in that many.  Unless the text has a `<!` or a `<?`, no two texts
    stand side by side. -/
theorem shape_parse (markup : String) :
    (∀ node ∈ (parse markup).children, node.WellFormed) ∧
    (∀ place ∈ (parse markup).places, place.around.length ≤ 512 ∧
      (place.around.length = 512 → place.element.children = [])) ∧
    (¬ ['<', '!'] <:+: markup.toList → ¬ ['<', '?'] <:+: markup.toList →
      Separated (parse markup).children) := by
  refine ⟨wellFormed_parse markup, fun place h => ?_, fun noComment noDeclaration => ?_⟩
  · rw [parse_eq] at h
    have shallow := isShallow_readSiblings _ _ _ _ (Nat.zero_le maxDepth) [] rfl place h
    exact ⟨shallow.depth, shallow.deepest⟩
  · rw [parse_eq]
    exact (separated_readSiblings _ _ _ _ (fun _ h => wellFormed_of_mem_lexemesOf h)
      (keepsApart_lexemes noComment noDeclaration)).separated

/-- A `<` that starts no markup, a void element and a closing tag of another element. -/
theorem shape_parse_mixed :
    ¬ ['<', '!'] <:+: "<P a=1 A=2>x < y<br>z</i>".toList ∧
    ¬ ['<', '?'] <:+: "<P a=1 A=2>x < y<br>z</i>".toList ∧
    Separated (parse "<P a=1 A=2>x < y<br>z</i>").children := by
  have unmarked : '!' ∉ "<P a=1 A=2>x < y<br>z</i>".toList := by decide
  have unasked : '?' ∉ "<P a=1 A=2>x < y<br>z</i>".toList := by decide
  have second {c d : Char} : d ∈ [c, d] := List.mem_cons_of_mem _ List.mem_cons_self
  have noComment : ¬ ['<', '!'] <:+: "<P a=1 A=2>x < y<br>z</i>".toList :=
    fun inside => unmarked (inside.subset second)
  have noDeclaration : ¬ ['<', '?'] <:+: "<P a=1 A=2>x < y<br>z</i>".toList :=
    fun inside => unasked (inside.subset second)
  exact ⟨noComment, noDeclaration,
    (shape_parse "<P a=1 A=2>x < y<br>z</i>").2.2 noComment noDeclaration⟩

end NoteMarkup
