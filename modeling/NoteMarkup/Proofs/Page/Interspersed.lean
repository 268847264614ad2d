import NoteMarkup.Proofs.Page.Merged
import NoteMarkup.Proofs.Tree.Written

/-!
# Comments and declarations between nodes

Comments and declarations can stand anywhere between the nodes of a note, and nobody sees them:
what is read, the page, the outline, the title and the summary are those of the note without them
(`parse_interspersed`).
-/

namespace NoteMarkup

inductive IsSkipped : String → Prop where
  | comment {body : String} (inside : ¬ "-->".toList <:+: body.toList) :
      IsSkipped ("<!--" ++ body ++ "-->")
  | declaration {body : String} (inside : '>' ∉ body.toList) (other : ¬ "--".toList <+: body.toList) :
      IsSkipped ("<!" ++ body ++ ">")
  | instruction {body : String} (inside : '>' ∉ body.toList) : IsSkipped ("<?" ++ body ++ ">")

/-- Where a comment does not end, it does not end with the first two characters of its end. -/
theorem commentEnd_infix_append {body : List Char} (h : commentEnd <:+: body ++ ['-', '-']) :
    commentEnd <:+: body := by
  have dash {cs : List Char} (h : commentEnd <:+: cs ++ ['-']) : commentEnd <:+: cs := by
    obtain suffix | inside := List.infix_concat_iff.mp h
    · obtain none | ⟨front, shape, -⟩ := List.suffix_concat_iff.mp suffix
      · cases none
      · have last := congrArg List.getLast? shape
        rw [List.getLast?_concat] at last
        cases last
    · exact inside
  rw [List.append_cons] at h
  exact dash (dash h)

theorem IsSkipped.exists_spells {own : String} (skipped : IsSkipped own) :
    ∃ token : Token, token.isSkipped = true ∧ Spells own.toList token := by
  cases skipped with
  | @comment body inside =>
    have spells := Spells.comment fun h => inside (commentEnd_infix_append h)
    exact ⟨.comment, rfl, by simpa [commentEnd] using spells⟩
  | @declaration body inside other =>
    have opens : OpensDeclaration '!' body.toList := .inr ⟨rfl, other⟩
    exact ⟨.declaration, rfl, by simpa using Spells.declaration opens inside⟩
  | @instruction body inside =>
    have opens : OpensDeclaration '?' body.toList := .inl rfl
    exact ⟨.declaration, rfl, by simpa using Spells.declaration opens inside⟩

/-- The markup is that of the nodes as they are printed, with comments and declarations in front of
    nodes and behind them, at any depth. -/
inductive Interspersed : List Node → String → Prop where
  | nil : Interspersed [] ""
  | skipped {own markup : String} {nodes : List Node} (skips : IsSkipped own)
      (behind : Interspersed nodes markup) : Interspersed nodes (own ++ markup)
  | text {s markup : String} {nodes : List Node} (behind : Interspersed nodes markup) :
      Interspersed (.text s :: nodes) (Text.escape s ++ markup)
  | void {tag markup : String} {attributes : List (String × String)} {children nodes : List Node}
      (void : isVoidTag tag = true) (behind : Interspersed nodes markup) :
      Interspersed (.element ⟨tag, attributes, children⟩ :: nodes)
        (openingTag tag attributes ++ markup)
  | element {tag content markup : String} {attributes : List (String × String)}
      {children nodes : List Node} (notVoid : isVoidTag tag = false)
      (below : Interspersed children content) (behind : Interspersed nodes markup) :
      Interspersed (.element ⟨tag, attributes, children⟩ :: nodes)
        (openingTag tag attributes ++ content ++ closingTag tag ++ markup)

/-- Well-formed nodes are written with their printed tags. -/
theorem Interspersed.exists_written {nodes : List Node} {markup : String}
    (interspersed : Interspersed nodes markup) (wf : ∀ node ∈ nodes, node.WellFormed) :
    ∃ openings, Written nodes markup.toList openings := by
  induction interspersed with
  | nil => exact ⟨[], .nil⟩
  | skipped skips behind ih =>
    obtain ⟨openings, written⟩ := ih wf
    obtain ⟨token, skipped, spells⟩ := skips.exists_spells
    rw [String.toList_append]
    exact ⟨_, .skipped spells skipped written⟩
  | text behind ih =>
    rw [List.forall_mem_cons] at wf
    obtain ⟨openings, written⟩ := ih wf.2
    cases wf.1 with
    | text nonempty =>
      rw [String.toList_append]
      exact ⟨_, .escaped nonempty written⟩
  | void void behind ih =>
    rw [List.forall_mem_cons] at wf
    obtain ⟨openings, written⟩ := ih wf.2
    cases wf.1 with
    | element named childless inner =>
      obtain rfl := childless void
      rw [String.toList_append]
      exact ⟨_, .childless (spells_openingTag named) (by simp [void]) written⟩
  | element notVoid below behind ihBelow ih =>
    rw [List.forall_mem_cons] at wf
    obtain ⟨openings, written⟩ := ih wf.2
    cases wf.1 with
    | element named childless inner =>
      obtain ⟨inside, content⟩ := ihBelow inner
      rw [String.toList_append, String.toList_append, String.toList_append, List.append_assoc,
        List.append_assoc]
      exact ⟨_, .element (spells_openingTag named) notVoid content (spells_closingTag named.tag)
        written⟩

/-- Comments and declarations between well-formed nodes, of which those that can have content stand
    in fewer than 512 others, are never an error.  The tree that is read is that of the note without
    them once texts that stand side by side are joined, and the page, the outline, the title and
    every summary are the same. -/
theorem parse_interspersed [UrlReader] {nodes : List Node} {note : String}
    (wf : ∀ node ∈ nodes, node.WellFormed)
    (shallow : ∀ place ∈ tagPlacesOf 0 0 nodes,
      isVoidTag place.tag = false → place.ancestors < 512)
    (interspersed : Interspersed nodes note) :
    ∃ root, parseStrict note = .ok root ∧ parseStrict (printNodes nodes) = .ok root.merged ∧
      (∀ options, transform options note = transform options (printNodes nodes)) ∧
      (parse note).outline = (parse (printNodes nodes)).outline ∧
      (parse note).title? = (parse (printNodes nodes)).title? ∧
      ∀ limit, (parse note).summary limit = (parse (printNodes nodes)).summary limit := by
  obtain ⟨openings, written⟩ := interspersed.exists_written wf
  obtain ⟨found, merged, reads⟩ := written.exists_parseStrict shallow
  have plain := parseStrict_of_find?_eq_none wf (find?_isTooDeep_eq_none shallow)
  have root : (⟨rootTag, [], mergedOf nodes⟩ : Element) = Element.merged ⟨rootTag, [], found⟩ := by
    rw [Element.merged, merged]
  rw [root] at plain
  have tree := parse_of_parseStrict_eq_ok reads
  have plainTree := parse_of_parseStrict_eq_ok plain
  refine ⟨_, reads, plain, fun options => ?_, ?_, ?_, fun limit => ?_⟩
  · rw [transform_eq_writeBlocks, transform_eq_writeBlocks, tree, plainTree, Element.children_merged,
      writeBlocks_mergedOf]
  · rw [tree, plainTree, Element.outline_merged]
  · rw [tree, plainTree, Element.title?_merged]
  · rw [tree, plainTree, Element.summary_merged]

def splitParagraph : Element :=
  ⟨"div", [("data-type", "NodeParagraph")], [.text "a ", .text "& b", .element ⟨"br", [], []⟩]⟩

def splitNote : String :=
  "<!DOCTYPE html><div data-type=\"NodeParagraph\">a <!-- x--y ->-->&amp; b<br><?z?></div>"

theorem parse_interspersed_splitNote :
    ∃ root, parseStrict splitNote = .ok root ∧
      parseStrict (printNodes [.element splitParagraph]) = .ok root.merged ∧
      (∀ options, transform options splitNote =
        transform options (printNodes [.element splitParagraph])) ∧
      (parse splitNote).outline = (parse (printNodes [.element splitParagraph])).outline ∧
      (parse splitNote).title? = (parse (printNodes [.element splitParagraph])).title? ∧
      ∀ limit, (parse splitNote).summary limit =
        (parse (printNodes [.element splitParagraph])).summary limit := by
  have doctype : IsSkipped ("<!" ++ "DOCTYPE html" ++ ">") := .declaration (by decide) (by decide)
  have comment : IsSkipped ("<!--" ++ " x--y ->" ++ "-->") := .comment (by decide +kernel)
  have instruction : IsSkipped ("<?" ++ "z?" ++ ">") := .instruction (by decide)
  have content : Interspersed splitParagraph.children _ :=
    .text (.skipped comment (.text (.void (by decide) (.skipped instruction .nil))))
  obtain ⟨note, whole, same⟩ :
      ∃ note, Interspersed [.element splitParagraph] note ∧ note = splitNote :=
    ⟨_, .skipped doctype (.element (by decide) content .nil), by decide⟩
  exact parse_interspersed (by decide) (by decide) (same ▸ whole)

end NoteMarkup
