import NoteMarkup.Outline
import NoteMarkup.Proofs.Text.Blank
import NoteMarkup.Proofs.Tree.Descendants

/-!
# Titles and outlines

A document has the text of the first entry of its outline as its title.  The title is found by a
search that stops, and the outline by a walk that lists headings and does not look into them, but
both come to the same heading first (`head?_outlineOf`).
-/

namespace NoteMarkup

mutual

theorem Element.head?_outline : ∀ e : Element,
    e.outline.head? = (e.find? (·.blockKind = .heading)).map Element.outlineEntry
  | ⟨_, _, children⟩ => by rw [Element.outline, Element.find?, head?_outlineOf children]

/-- The first entry of an outline is that of the first heading block, in document order. -/
theorem head?_outlineOf : ∀ nodes : List Node,
    (outlineOf nodes).head? = (findIn? (·.blockKind = .heading) nodes).map Element.outlineEntry
  | [] => rfl
  | node :: nodes => by
    rw [outlineOf, List.head?_append, findIn?, Node.head?_outline node, head?_outlineOf nodes]
    cases node.find? (·.blockKind = .heading) <;> rfl

theorem Node.head?_outline : ∀ node : Node,
    node.outline.head? = (node.find? (·.blockKind = .heading)).map Element.outlineEntry
  | .text _ => rfl
  | .element e => by
    rw [Node.outline, Node.find?]
    by_cases heading : e.blockKind = .heading
    · -- a heading is not looked into, and the search stops at it
      rw [if_pos heading, if_pos (by simpa using heading)]
      rfl
    · rw [if_neg heading, if_neg (by simpa using heading), Element.head?_outline e]

end

theorem nonEmpty?_eq_filter (s : String) : nonEmpty? s = (some s).filter (· ≠ "") := by
  unfold nonEmpty?
  by_cases empty : s = ""
  · rw [if_pos (String.isEmpty_iff.mpr empty), empty]
    rfl
  · rw [if_neg (mt String.isEmpty_iff.mp empty), Option.filter_some_pos (by simpa using empty)]

theorem Element.isPageHeading_eq (e : Element) :
    e.isPageHeading = decide (e.tag ∈ ["h1", "h2", "h3"]) := by
  rw [Bool.eq_iff_iff]
  simp [Element.isPageHeading, or_assoc]

theorem Element.isTrimmed_headingText (e : Element) : Text.IsTrimmed e.headingText := by
  unfold Element.headingText
  split
  · exact Text.isTrimmed_empty
  · exact Text.isTrimmed_trim _

/-- The first of two texts that is not empty: the one that the outline lists first, and that of the
    first page heading. -/
theorem Element.title?_eq (root : Element) :
    root.title? = ((root.outline.head?.map OutlineEntry.text).filter (· ≠ "")).or
      (((root.descendants.find? fun e => e.tag ∈ ["h1", "h2", "h3"]).map
        fun e => Text.trim e.textContent).filter (· ≠ "")) := by
  have block : (root.find? (·.blockKind = .heading)).bind (nonEmpty? ·.headingText) =
      (root.outline.head?.map OutlineEntry.text).filter (· ≠ "") := by
    rw [root.head?_outline]
    cases root.find? (·.blockKind = .heading) with
    | none => rfl
    | some heading =>
      rw [Option.bind_some, nonEmpty?_eq_filter, Option.map_some]
      rfl
  have page : (root.find? Element.isPageHeading).bind (nonEmpty? <| Text.trim ·.textContent) =
      ((root.descendants.find? fun e => e.tag ∈ ["h1", "h2", "h3"]).map
        fun e => Text.trim e.textContent).filter (· ≠ "") := by
    rw [Element.find?_eq, funext Element.isPageHeading_eq]
    cases root.descendants.find? fun e => e.tag ∈ ["h1", "h2", "h3"] with
    | none => rfl
    | some heading => rw [Option.bind_some, nonEmpty?_eq_filter, Option.map_some]
  rw [Element.title?, block, page]
  cases (root.outline.head?.map OutlineEntry.text).filter (· ≠ "") <;> rfl

theorem Element.isTrimmed_of_outline (root : Element) :
    ∀ entry ∈ root.outline.head?, Text.IsTrimmed entry.text := by
  intro entry h
  rw [root.head?_outline] at h
  obtain ⟨heading, -, rfl⟩ := Option.map_eq_some_iff.mp h
  exact heading.isTrimmed_headingText

/-- The title of a document is the text that its outline lists first, if there is one and it is not
    empty, and else that of its first `h1`, `h2` or `h3` without the blanks around it.  An empty
    text is no title. -/
theorem title?_of_outline (root : Element) :
    (∀ first more, root.outline = first :: more → first.text ≠ "" →
      root.title? = some first.text) ∧
    ((∀ first more, root.outline = first :: more → first.text = "") →
      root.title? = ((root.descendants.find? fun e => e.tag ∈ ["h1", "h2", "h3"]).map
        fun e => Text.trim e.textContent).filter (· ≠ "")) ∧
    ∀ title ∈ root.title?, title ≠ "" ∧ Text.IsTrimmed title := by
  rw [root.title?_eq]
  refine ⟨?_, ?_, ?_⟩
  · intro first more listed shown
    rw [listed, List.head?_cons, Option.map_some, Option.filter_some_pos (by simpa using shown)]
    rfl
  · intro hidden
    have none : (root.outline.head?.map OutlineEntry.text).filter (· ≠ "") = none := by
      cases listed : root.outline with
      | nil => rfl
      | cons first more =>
        rw [List.head?_cons, Option.map_some, hidden first more listed]
        rfl
    rw [none, Option.none_or]
  · intro title h
    obtain h | ⟨-, h⟩ := Option.or_eq_some_iff.mp h
    · obtain ⟨h, nonempty⟩ := Option.filter_eq_some_iff.mp h
      obtain ⟨entry, first, rfl⟩ := Option.map_eq_some_iff.mp h
      exact ⟨by simpa using nonempty, root.isTrimmed_of_outline entry first⟩
    · obtain ⟨h, nonempty⟩ := Option.filter_eq_some_iff.mp h
      obtain ⟨e, -, rfl⟩ := Option.map_eq_some_iff.mp h
      exact ⟨by simpa using nonempty, Text.isTrimmed_trim _⟩

def blankHeading : Element :=
  ⟨rootTag, [],
    [.element ⟨"div", [("data-type", "NodeHeading"), ("data-subtype", "h1")],
      [.element ⟨"div", [("contenteditable", "true")], [.text " \n"]⟩]⟩,
      .element ⟨"section", [], [.element ⟨"h2", [], [.text " Plain ", .text "text\n"]⟩]⟩]⟩

theorem title?_of_outline_blankHeading :
    (∀ first more, blankHeading.outline = first :: more → first.text = "") ∧
    blankHeading.title? = some "Plain text" := by
  have listed : blankHeading.outline = [⟨1, none, ""⟩] := by decide
  have hidden : ∀ first more, blankHeading.outline = first :: more → first.text = "" := by
    intro first more equal
    obtain ⟨rfl, -⟩ := List.cons.inj (listed.symm.trans equal)
    rfl
  refine ⟨hidden, ((title?_of_outline blankHeading).2.1 hidden).trans ?_⟩
  decide

end NoteMarkup
