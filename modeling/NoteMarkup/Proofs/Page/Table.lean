import NoteMarkup.Proofs.Page.WellFormed
import NoteMarkup.Proofs.Tree.Append
import NoteMarkup.Proofs.Tree.Pruned

/-!
# Tables on a page

A table is kept as it stands in the note, without the scripts in it.  What is left reads back, and
its page is the same (`transform_table`).
-/

namespace NoteMarkup

theorem Element.renderBlock_of_table [UrlReader] (options : Options) :
    ∀ {e : Element}, e.dataType? = some "NodeTable" →
      e.renderBlock options = [.element (e.without "script")]
  | ⟨_, _, _⟩, table => by
    rw [Element.renderBlock]
    simp only [Element.blockKind_eq_table_iff.mpr table]

section

variable {e : Element} (wf : (Node.element e).WellFormed)
  (shallow : ∀ place ∈ tagPlacesOf 0 0 [.element e],
    isVoidTag place.tag = false → place.ancestors < 512)

include wf shallow

theorem parseStrict_print_element :
    parseStrict e.print = .ok ⟨rootTag, [], [.element e.merged]⟩ := by
  have wfNodes : ∀ node ∈ [Node.element e], node.WellFormed := by
    simpa using wf
  have reads := parseStrict_of_find?_eq_none wfNodes (find?_isTooDeep_eq_none shallow)
  rwa [printNodes_singleton, Node.print] at reads

theorem transform_print_of_table [UrlReader] (options : Options)
    (table : e.dataType? = some "NodeTable") :
    transform options e.print = (e.merged.without "script").print := by
  have kept : e.merged.dataType? = some "NodeTable" := by
    rw [← table]
    cases e
    rw [Element.merged]
    rfl
  rw [transform_eq, parse_of_parseStrict_eq_ok (parseStrict_print_element wf shallow),
    Element.render, renderBlocks, renderBlocks, List.append_nil, Node.renderBlock,
    Element.renderBlock_of_table options kept, printNodes_singleton, Node.print]

end

/-- Merging the texts of what is left brings back nothing that was taken out. -/
theorem Element.print_without_merged_without (tag : String) (e : Element) :
    ((e.without tag).merged.without tag).print = (e.without tag).print := by
  rw [Element.without_eq_self, Element.print_merged]
  intro inner below named
  have tags := List.mem_map_of_mem (f := Element.tag) below
  rw [Element.map_tag_descendants_merged] at tags
  obtain ⟨other, inside, same⟩ := List.mem_map.mp tags
  exact Element.tag_ne_of_mem_descendants_without e other inside (same.trans named)

/-- The page of the markup of a table is the markup of the table without the scripts in it, and
    with nothing else changed.  It reads back as what is left, with each run of texts as one, and
    it is its own page.  The table is well-formed, its texts stand apart, and of its elements those
    that can have content stand in fewer than 512 others. -/
theorem transform_table [UrlReader] (options : Options) {e : Element} (wf : (Node.element e).WellFormed)
    (separated : (Node.element e).Separated)
    (shallow : ∀ place ∈ tagPlacesOf 0 0 [.element e],
      isVoidTag place.tag = false → place.ancestors < 512)
    (table : e.dataType? = some "NodeTable") :
    ∃ kept, Pruned "script" e.children kept ∧
      transform options e.print = Element.print ⟨e.tag, e.attributes, kept⟩ ∧
      parseStrict (transform options e.print) =
        .ok ⟨rootTag, [], [.element ⟨e.tag, e.attributes, mergedOf kept⟩]⟩ ∧
      transform options (transform options e.print) = transform options e.print := by
  have own : e.merged = e := Node.element.inj (Node.merged_of_separated separated)
  have page : transform options e.print = (e.without "script").print := by
    rw [transform_print_of_table wf shallow options table, own]
  have wfKept := Element.wellFormed_without "script" wf
  have shallowKept := (e.covers_without "script" 0 0).ancestors_lt shallow
  have reads := parseStrict_print_element wfKept shallowKept
  obtain ⟨tag, attributes, children⟩ := e
  refine ⟨withoutIn "script" children, pruned_iff.mpr rfl, page, ?_, ?_⟩
  · rw [page, reads, Element.without, Element.merged]
  · rw [page, transform_print_of_table wfKept shallowKept options table,
      Element.print_without_merged_without]

def scriptTable : Element :=
  ⟨"div", [("data-type", "NodeTable"), ("title", "\"<")],
    [.text "a<", .element ⟨"script", [], [.text "x", .element ⟨"script", [], []⟩]⟩, .text "&amp;",
      .element ⟨"td", [], [.element ⟨"br", [], []⟩, .element ⟨"script", [("src", "y")], []⟩]⟩]⟩

theorem transform_table_scriptTable :
    (Node.element scriptTable).WellFormed ∧ (Node.element scriptTable).Separated ∧
    (∀ place ∈ tagPlacesOf 0 0 [.element scriptTable],
      isVoidTag place.tag = false → place.ancestors < 512) ∧
    scriptTable.dataType? = some "NodeTable" ∧
    transform {} scriptTable.print =
      "<div data-type=\"NodeTable\" title=\"&quot;&lt;\">a&lt;&amp;amp;<td><br></td></div>" ∧
    parseStrict (transform {} scriptTable.print) =
      .ok ⟨rootTag, [], [.element ⟨"div", scriptTable.attributes,
        [.text "a<&amp;", .element ⟨"td", [], [.element ⟨"br", [], []⟩]⟩]⟩]⟩ := by
  have wf : (Node.element scriptTable).WellFormed := by decide
  have separated : (Node.element scriptTable).Separated := by decide
  have shallow : ∀ place ∈ tagPlacesOf 0 0 [.element scriptTable],
      isVoidTag place.tag = false → place.ancestors < 512 := by decide
  obtain ⟨kept, pruned, page, reads, -⟩ := transform_table {} wf separated shallow rfl
  rw [pruned_iff.mp pruned] at page reads
  exact ⟨wf, separated, shallow, rfl, page.trans (by decide), reads⟩

end NoteMarkup
