import NoteMarkup.Proofs.Tree.RoundTrip
import NoteMarkup.Tree.Search

/-!
# Tokens of printed nodes

The tokens of the markup of well-formed nodes are the tags and texts of the nodes, in document
order, where each run of texts is one text (`map_token_lexemes_printNodes`).
-/

namespace NoteMarkup

mutual

def Element.tokens : Element → List Token
  | ⟨tag, attributes, children⟩ =>
    .opening tag attributes false ::
      if isVoidTag tag then [] else tokensOf children ++ [.closing tag]

/-- The tokens that a list of nodes is written as, one for every tag and every text. -/
def tokensOf : List Node → List Token
  | [] => []
  | node :: nodes => node.tokens ++ tokensOf nodes

def Node.tokens : Node → List Token
  | .element e => e.tokens
  | .text s => [.text s]

end

theorem tokensOf_append (nodes more : List Node) :
    tokensOf (nodes ++ more) = tokensOf nodes ++ tokensOf more := by
  induction nodes with
  | nil => rfl
  | cons node nodes ih => rw [List.cons_append, tokensOf, tokensOf, ih, List.append_assoc]

mutual

theorem map_token_lexemesOf_printNodes :
    ∀ {nodes : List Node} {rest : List Char}, (∀ node ∈ nodes, node.WellFormed) →
      Separated nodes → EndsText rest →
      (lexemesOf ((printNodes nodes).toList ++ rest)).map Lexeme.token =
        tokensOf nodes ++ (lexemesOf rest).map Lexeme.token
  | [], _, _, _, _ => rfl
  | node :: nodes, rest, wf, separated, ends => by
    obtain ⟨wfNode, wfNodes⟩ := List.forall_mem_cons.mp wf
    obtain ⟨apart, inner⟩ := separated
    obtain ⟨innerNode, innerNodes⟩ := List.forall_mem_cons.mp inner
    have behind : node.isText = true → EndsText ((printNodes nodes).toList ++ rest) :=
      endsText_of_apart apart wfNodes ends
    rw [printNodes, String.toList_append, List.append_assoc, tokensOf, List.append_assoc,
      Node.map_token_lexemesOf_print wfNode innerNode behind,
      map_token_lexemesOf_printNodes wfNodes ⟨List.IsChain.tail apart, innerNodes⟩ ends]

theorem Node.map_token_lexemesOf_print :
    ∀ {node : Node} {rest : List Char}, node.WellFormed → node.Separated →
      (node.isText = true → EndsText rest) →
      (lexemesOf (node.print.toList ++ rest)).map Lexeme.token =
        node.tokens ++ (lexemesOf rest).map Lexeme.token
  | .text s, rest, .text nonempty, _, ends => by
    rw [Node.print, lexemesOf_of_readToken (by simp [nonempty])
      (readToken_escape nonempty (ends rfl))]
    rfl
  | .element ⟨tag, attributes, children⟩, rest, .element named void wf, .element apart inner, _ => by
    rw [Node.print, Node.tokens, Element.tokens]
    cases hvoid : isVoidTag tag with
    | true =>
      cases void hvoid
      rw [Element.print_of_void hvoid, lexemesOf_openingTag named]
      rfl
    | false =>
      have content := map_token_lexemesOf_printNodes wf ⟨apart, inner⟩
        (endsText_closingTag tag rest)
      have closing := lexemesOf_of_readToken (by simp [closingTag])
        (readToken_closingTag named.tag rest)
      rw [Element.print_of_not_void hvoid, String.toList_append, String.toList_append,
        List.append_assoc, List.append_assoc, lexemesOf_openingTag named, List.map_cons, content,
        closing]
      simp

end

/-- The markup of well-formed nodes is cut into their tags and texts. -/
theorem map_token_lexemes_printNodes {nodes : List Node} (wf : ∀ node ∈ nodes, node.WellFormed) :
    (lexemes (printNodes nodes)).map Lexeme.token = tokensOf (mergedOf nodes) := by
  have cut := map_token_lexemesOf_printNodes (wellFormed_mergedOf wf) (separated_mergedOf nodes)
    (.inl rfl)
  rw [List.append_nil, printNodes_mergedOf, lexemesOf, List.map_nil, List.append_nil] at cut
  exact cut

/-! ## What does not see how texts are joined -/

section

variable {α : Type} {f : Token → List α}

theorem flatMap_tokensOf_joinFront (additive : ∀ s t, f (.text (s ++ t)) = f (.text s) ++ f (.text t))
    (node : Node) (nodes : List Node) :
    (tokensOf (joinFront node nodes)).flatMap f = node.tokens.flatMap f ++ (tokensOf nodes).flatMap f :=
  append_joinFront (fun nodes => (tokensOf nodes).flatMap f) (fun node => node.tokens.flatMap f)
    (fun _ _ => by rw [tokensOf, List.flatMap_append])
    (fun s t => by simp only [Node.tokens, List.flatMap_singleton, additive]) node nodes

mutual

/-- What is read off the tokens one by one, a text in front of another like both in one, is the
    same before and after texts are merged. -/
theorem flatMap_tokensOf_mergedOf
    (additive : ∀ s t, f (.text (s ++ t)) = f (.text s) ++ f (.text t)) :
    ∀ nodes : List Node, (tokensOf (mergedOf nodes)).flatMap f = (tokensOf nodes).flatMap f
  | [] => rfl
  | node :: nodes => by
    rw [mergedOf, flatMap_tokensOf_joinFront additive, Node.flatMap_tokens_merged additive node,
      flatMap_tokensOf_mergedOf additive nodes, tokensOf, List.flatMap_append]

theorem Node.flatMap_tokens_merged
    (additive : ∀ s t, f (.text (s ++ t)) = f (.text s) ++ f (.text t)) :
    ∀ node : Node, node.merged.tokens.flatMap f = node.tokens.flatMap f
  | .text _ => rfl
  | .element ⟨tag, attributes, children⟩ => by
    have content := flatMap_tokensOf_mergedOf additive children
    simp only [Node.merged, Element.merged, Node.tokens, Element.tokens]
    split
    · rfl
    · simp only [List.flatMap_cons, List.flatMap_append, content]

end

theorem flatMap_lexemes_printNodes
    (additive : ∀ s t, f (.text (s ++ t)) = f (.text s) ++ f (.text t)) {nodes : List Node}
    (wf : ∀ node ∈ nodes, node.WellFormed) :
    (lexemes (printNodes nodes)).flatMap (fun lexeme => f lexeme.token) =
      (tokensOf nodes).flatMap f := by
  rw [← flatMap_tokensOf_mergedOf additive, ← map_token_lexemes_printNodes wf, List.flatMap_map]

/-- What is read off the tags of printed nodes is read off the tags of the nodes. -/
theorem filterMap_lexemes_printNodes {g : Token → Option α} (tags : ∀ s, g (.text s) = none)
    {nodes : List Node} (wf : ∀ node ∈ nodes, node.WellFormed) :
    (lexemes (printNodes nodes)).filterMap (fun lexeme => g lexeme.token) =
      (tokensOf nodes).filterMap g := by
  have additive : ∀ s t, (g (.text (s ++ t))).toList = (g (.text s)).toList ++ (g (.text t)).toList := by
    intro s t
    rw [tags, tags, tags]
    rfl
  rw [List.filterMap_eq_flatMap_toList, List.filterMap_eq_flatMap_toList]
  exact flatMap_lexemes_printNodes (f := fun token => (g token).toList) additive wf

end

/-! ## The text between the tags -/

def Token.characters : Token → List Char
  | .text s => s.toList
  | _ => []

/-- The text between the tags of a markup text, with entities read. -/
def markupText (markup : String) : String :=
  String.ofList ((lexemes markup).flatMap fun lexeme => lexeme.token.characters)

mutual

theorem flatMap_characters_tokensOf : ∀ {nodes : List Node}, (∀ node ∈ nodes, node.WellFormed) →
    (tokensOf nodes).flatMap Token.characters = (textContentOf nodes).toList
  | [], _ => rfl
  | node :: nodes, wf => by
    obtain ⟨wfNode, wfNodes⟩ := List.forall_mem_cons.mp wf
    rw [tokensOf, textContentOf, List.flatMap_append, String.toList_append,
      Node.flatMap_characters_tokens wfNode, flatMap_characters_tokensOf wfNodes]

theorem Node.flatMap_characters_tokens : ∀ {node : Node}, node.WellFormed →
    node.tokens.flatMap Token.characters = node.textContent.toList
  | .text s, _ => List.append_nil s.toList
  | .element ⟨tag, attributes, children⟩, .element named void wf => by
    rw [Node.tokens, Element.tokens, Node.textContent, Element.textContent, List.flatMap_cons]
    cases hvoid : isVoidTag tag with
    | true =>
      rw [void hvoid]
      rfl
    | false =>
      have content := flatMap_characters_tokensOf wf
      simp [Token.characters, content]

end

/-- The text between the printed tags is the text content of the nodes. -/
theorem markupText_printNodes {nodes : List Node} (wf : ∀ node ∈ nodes, node.WellFormed) :
    markupText (printNodes nodes) = textContentOf nodes := by
  have additive : ∀ s t, Token.characters (.text (s ++ t)) =
      Token.characters (.text s) ++ Token.characters (.text t) := fun _ _ => String.toList_append ..
  rw [markupText, flatMap_lexemes_printNodes additive wf, flatMap_characters_tokensOf wf,
    String.ofList_toList]

end NoteMarkup
