import NoteMarkup.Proofs.Page.Writer
import NoteMarkup.Proofs.Tree.Append

/-!
# Blocks in front of other markup

The page of whole blocks in front of other markup is their page in front of that of the other
markup, which may be damaged (`transform_append`).
-/

namespace NoteMarkup

theorem writeBlocks_append [UrlReader] (options : Options) (nodes more : List Node) :
    writeBlocks options (nodes ++ more) = writeBlocks options nodes ++ writeBlocks options more := by
  induction nodes with
  | nil => simp [writeBlocks]
  | cons node nodes ih => rw [List.cons_append, writeBlocks, writeBlocks, ih, String.append_assoc]

theorem writeBlocks_elements [UrlReader] (options : Options) (blocks : List Element) :
    writeBlocks options (blocks.map .element) =
      String.join (blocks.map (Element.writeBlock options)) := by
  induction blocks with
  | nil => rfl
  | cons e blocks ih => rw [List.map_cons, writeBlocks, ih, List.map_cons, String.join_cons,
      Node.writeBlock]

theorem printNodes_elements (blocks : List Element) :
    printNodes (blocks.map .element) = String.join (blocks.map Element.print) := by
  induction blocks with
  | nil => rfl
  | cons e blocks ih => rw [List.map_cons, printNodes, ih, List.map_cons, String.join_cons,
      Node.print]

theorem transform_eq_writeBlocks [UrlReader] (options : Options) (markup : String) :
    transform options markup = writeBlocks options (parse markup).children := by
  rw [transform_eq, ← Element.pageMarkup_eq]
  rfl

/-- Well-formed elements, with texts that stand apart and of which those that can have content
    stand in fewer than 512 others, keep apart from what follows their markup.  The page is what
    the elements become as blocks, one after the other, and the page of what follows.  What follows
    is read without error exactly where it is read so alone, and else with the same error, as many
    characters further on as stand in front. -/
theorem transform_append [UrlReader] (options : Options) {blocks : List Element}
    (wf : ∀ e ∈ blocks, (Node.element e).WellFormed)
    (separated : ∀ e ∈ blocks, (Node.element e).Separated)
    (shallow : ∀ place ∈ tagPlacesOf 0 0 (blocks.map .element),
      isVoidTag place.tag = false → place.ancestors < 512) (markup : String) :
    transform options (String.join (blocks.map Element.print) ++ markup) =
      String.join (blocks.map (Element.writeBlock options)) ++ transform options markup ∧
    (∀ root, parseStrict markup = .ok root →
      parseStrict (String.join (blocks.map Element.print) ++ markup) =
        .ok ⟨rootTag, [], blocks.map .element ++ root.children⟩) ∧
    (∀ e, parseStrict markup = .error e →
      parseStrict (String.join (blocks.map Element.print) ++ markup) =
        .error (e.shift (String.join (blocks.map Element.print)).length)) := by
  have reads := parseStrict_blocks_append wf separated shallow markup
  rw [← printNodes_elements]
  refine ⟨?_, fun root alone => ?_, fun e alone => ?_⟩
  · rw [transform_eq_writeBlocks, transform_eq_writeBlocks,
      parse_blocks_append wf separated shallow, writeBlocks_append, writeBlocks_elements]
  · rw [reads, alone]
    rfl
  · rw [reads, alone]
    rfl

def noteParagraph : Element :=
  ⟨"div", [("data-type", "NodeParagraph")], [.text "a < b", .element ⟨"br", [], []⟩]⟩

theorem transform_append_noteParagraph :
    transform {} (String.join ([noteParagraph].map Element.print) ++ "</i>lost") =
      String.join ([noteParagraph].map (Element.writeBlock {})) ++ transform {} "</i>lost" ∧
    parseStrict (String.join ([noteParagraph].map Element.print) ++ "</i>lost") =
      .error (.unmatchedClosingTag "i" none 49) := by
  have wf : ∀ e ∈ [noteParagraph], (Node.element e).WellFormed := by decide
  have separated : ∀ e ∈ [noteParagraph], (Node.element e).Separated := by decide
  have damaged : parseStrict "</i>lost" = .error (.unmatchedClosingTag "i" none 0) := by
    have closing : readToken "</i>lost".toList = .ok (.closing "i", "lost".toList) := rfl
    have cut : lexemes "</i>lost" = ⟨"</i>lost".toList, .closing "i"⟩ :: lexemesOf "lost".toList :=
      lexemesOf_of_readToken (by decide) closing
    rw [parseStrict_eq, cut, readSiblings_closing]
    rfl
  obtain ⟨page, -, error⟩ :=
    transform_append {} wf separated (by decide) "</i>lost"
  exact ⟨page, error _ damaged⟩

end NoteMarkup
