import NoteMarkup.Proofs.Page.WellFormed
import NoteMarkup.Proofs.Tree.OpeningTag

/-!
# Scripts on a page

Nothing that is made for a page has the tag of a script, and a table loses the scripts below it.
The one element whose own tag reaches the page is the table itself.
-/

namespace NoteMarkup

mutual

theorem Element.mem_renderBlock_of_table [UrlReader] (options : Options) {table : Element}
    (kind : table.blockKind = .table) :
    ∀ {e : Element}, table ∈ e.blocks → .element (table.without "script") ∈ e.renderBlock options
  | ⟨tag, attributes, children⟩, h => by
    rw [Element.blocks] at h
    rw [Element.renderBlock]
    cases h with
    | head => simp [kind]
    | tail _ h =>
      split at h
      · rename_i unrecognized
        -- the blocks inside do not come to nothing, as the table is among them
        have nested := mem_renderBlocks_of_table options kind h
        simp only [unrecognized]
        split
        · rename_i empty
          rw [empty] at nested
          cases nested
        · exact nested
      · cases h

theorem mem_renderBlocks_of_table [UrlReader] (options : Options) {table : Element}
    (kind : table.blockKind = .table) :
    ∀ {nodes : List Node}, table ∈ blocksOf nodes →
      .element (table.without "script") ∈ renderBlocks options nodes
  | [], h => by cases h
  | node :: nodes, h => by
    rw [blocksOf] at h
    rw [renderBlocks]
    obtain h | h := List.mem_append.mp h
    · exact List.mem_append_left _ (Node.mem_renderBlock_of_table options kind h)
    · exact List.mem_append_right _ (mem_renderBlocks_of_table options kind h)

theorem Node.mem_renderBlock_of_table [UrlReader] (options : Options) {table : Element}
    (kind : table.blockKind = .table) :
    ∀ {node : Node}, table ∈ node.blocks →
      .element (table.without "script") ∈ node.renderBlock options
  | .element _, h => Element.mem_renderBlock_of_table options kind h
  | .text _, h => by cases h

end

theorem IsBlock.tag_ne_script {node : Node} (block : IsBlock node) :
    ∀ e ∈ node.elements, e.tag ≠ "script" := by
  have absent : "script" ∉ containerTags ++ leafTags := by decide
  intro e h script
  exact absent (script ▸ block.isPagePart.tag_mem e h)

/-- An element of a page is a script exactly if it is a table. -/
theorem exists_script_render_iff [UrlReader] (options : Options) (root : Element) :
    (∃ e ∈ descendantsOf (root.render options), e.tag = "script") ↔
      ∃ table ∈ blocksOf root.children, table.blockKind = .table ∧ table.tag = "script" := by
  constructor
  · rintro ⟨e, h, script⟩
    obtain ⟨node, member, h⟩ := mem_descendantsOf.mp h
    obtain block | ⟨table, inside, kind, rfl⟩ :=
      isBlock_or_table_of_mem_renderBlocks options _ node member
    · exact absurd script (block.tag_ne_script e h)
    · cases h with
      | head => exact ⟨table, inside, kind, by simpa using script⟩
      | tail _ below =>
        exact absurd script (Element.tag_ne_of_mem_descendants_without table e below)
  · rintro ⟨table, inside, kind, script⟩
    have stands : .element (table.without "script") ∈ root.render options :=
      mem_renderBlocks_of_table options kind inside
    exact ⟨table.without "script",
      mem_descendantsOf.mpr ⟨_, stands, List.mem_cons_self⟩, by simpa using script⟩

theorem opensTag_script_render_iff [UrlReader] (options : Options) {root : Element}
    (wf : ∀ node ∈ root.children, node.WellFormed) :
    OpensTag "script" (printNodes (root.render options)).toList ↔
      ∃ table ∈ blocksOf root.children, table.blockKind = .table ∧ table.tag = "script" := by
  have script : isTagName "script" = true := by decide
  have opens : OpensTag "script" ((printNodes (root.render options)).toList ++ []) ↔
      (∃ e ∈ descendantsOf (root.render options), e.tag = "script") ∨ OpensTag "script" [] :=
    opensTag_printNodes script (wellFormed_render options wf)
  rw [List.append_nil, or_iff_left not_opensTag_nil] at opens
  rw [opens, exists_script_render_iff]

/-- A script tag is opened on the page of a note exactly if a script of the note has the type of
    a table and is looked at as a block. -/
theorem opensTag_script_transform_iff [UrlReader] (options : Options) (markup : String) :
    OpensTag "script" (transform options markup).toList ↔
      ∃ table ∈ blocksOf (parse markup).children,
        table.dataType? = some "NodeTable" ∧ table.tag = "script" := by
  rw [transform_eq, opensTag_script_render_iff options (wellFormed_parse markup)]
  simp only [Element.blockKind_eq_table_iff]

/-- A script that has the type of a table stands on the page as it is. -/
theorem transform_script_table :
    transform {} "<script data-type=\"NodeTable\">alert(1)</script>" =
        "<script data-type=\"NodeTable\">alert(1)</script>" ∧
      OpensTag "script"
        (transform {} "<script data-type=\"NodeTable\">alert(1)</script>").toList := by
  have wf : ∀ node ∈ [Node.element ⟨"script", [("data-type", "NodeTable")], [.text "alert(1)"]⟩],
      node.WellFormed := by decide
  have printed : printNodes
      [.element ⟨"script", [("data-type", "NodeTable")], [.text "alert(1)"]⟩] =
        "<script data-type=\"NodeTable\">alert(1)</script>" := by decide
  have reads := parseStrict_of_find?_eq_none wf (by decide)
  rw [printed] at reads
  have page : (parse "<script data-type=\"NodeTable\">alert(1)</script>").render {} =
      [.element ⟨"script", [("data-type", "NodeTable")], [.text "alert(1)"]⟩] := by
    rw [parse_of_parseStrict_eq_ok reads]
    rfl
  rw [transform_eq, page, printed]
  exact ⟨rfl, [], _, rfl, ' ', _, rfl, rfl⟩

end NoteMarkup
