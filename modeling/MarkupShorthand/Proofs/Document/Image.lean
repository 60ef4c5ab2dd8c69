/-
  MarkupShorthand.Proofs.Document.Image
  ─────────────────────────────────────
  **SHORTHAND EXPRESSES A FOREST EXACTLY WHEN A LINE CAN EXPRESS EACH OF ITS
  NODES.**

      source → forest   every line of the source gives a node of that kind, and
                        nesting keeps the nodes
      forest → source   one line for each node, parents before children, is
                        read and nested to the forest

  There is no condition on how the nodes stand to each other: any tree can be
  indented.
-/
import MarkupShorthand.Proofs.Document.Reading
import MarkupShorthand.Proofs.Forest.Flattening
import MarkupShorthand.Proofs.Line.Writing

namespace MarkupShorthand.Document

open Text

/-! ## §1. From a source to its forest. -/

/-- **A NODE THAT IS READ** can be expressed and has nothing below it. -/
theorem expressible_of_readLines {source : String} {items : List (Node × Nat)}
    (h : readLines (Source.lines source) = .ok items) :
    ∀ item ∈ items, item.1.IsExpressible ∧ item.1.children = [] := by
  intro item hitem
  obtain ⟨⟨number, line⟩, hline, element, hread, rfl⟩ := mem_of_readLines h item hitem
  obtain ⟨parts, hparts, -, rfl⟩ := parts_of_read hread
  have hfree : FreeOf ['\n', '\t'] parts.chars := by
    rw [hparts]
    exact Source.free_of_mem_lines hline
  exact ⟨parts.expressible_node number hfree, rfl⟩

/-- **THE NODES OF A FOREST THAT IS READ** are those of the lines in order, parents before
children. -/
theorem nodes_of_parse {source : String} {forest : List Node}
    (h : parse source = .ok forest) :
    ∃ elements,
      List.Forall₂ (fun line element => ElementLine.read line = .ok element)
          (Source.lines source) elements
        ∧ (Node.levelsAll 0 forest).map (fun entry => entry.2.stripped)
          = elements.map ElementLine.node := by
  obtain ⟨items, hitems, rfl⟩ := parse_eq_ok_iff.mp h
  obtain ⟨elements, hread, rfl⟩ := readLines_eq_ok_iff.mp hitems
  have hnodes := Forest.stripped_levelsAll_nest fun item hitem =>
    (expressible_of_readLines hitems item hitem).2
  rw [List.map_map] at hnodes
  exact ⟨elements, hread, hnodes⟩

/-- **THE NODES OF A FOREST THAT IS READ CAN BE EXPRESSED.** -/
theorem expressible_of_parse {source : String} {forest : List Node}
    (h : parse source = .ok forest) :
    ∀ entry ∈ Node.levelsAll 0 forest, entry.2.IsExpressible := by
  obtain ⟨items, hitems, rfl⟩ := parse_eq_ok_iff.mp h
  have hread := expressible_of_readLines hitems
  have hnodes := Forest.stripped_levelsAll_nest fun item hitem => (hread item hitem).2
  -- a node of the forest, its children taken off, is one that was read
  intro entry hentry
  have hmem : entry.2.stripped ∈ items.map Prod.fst := by
    rw [← hnodes]
    exact List.mem_map_of_mem hentry
  obtain ⟨item, hitem, hstripped⟩ := List.mem_map.mp hmem
  have hexpressible := (hread item hitem).1
  rw [hstripped] at hexpressible
  -- the children of a node are no part of what its line expresses
  exact ⟨hexpressible.tag, hexpressible.attrs, hexpressible.text, hexpressible.styles⟩

/-! ## §2. From a forest to a source. -/

/-- Any nodes with levels have rows from which they are read. -/
theorem exists_rows :
    ∀ (entries : List (Nat × Node)), (∀ entry ∈ entries, entry.2.IsExpressible) →
      ∃ rows : List (List Char), (∀ row ∈ rows, Source.IsRow row)
        ∧ ∀ first, readLines (Source.numbered first rows) = .ok (entries.map Forest.flat)
  | [], _ => ⟨[], by simp, fun _ => rfl⟩
  | (level, node) :: entries, h => by
    have hnode : node.IsExpressible := h (level, node) List.mem_cons_self
    obtain ⟨rows, hrows, hread⟩ := exists_rows entries
      fun other hother => h other (List.mem_cons_of_mem _ hother)
    refine ⟨(node.line level hnode).chars :: rows, ?_, ?_⟩
    · intro row hrow
      rcases List.mem_cons.mp hrow with rfl | hrow
      · exact isRow_line level node hnode
      · exact hrows row hrow
    · intro first
      unfold Source.numbered readLines
      rw [read_line level node hnode first]
      simp only [hread (first + 1), node_element_line, depth_element_line]
      rfl

/-- **A FOREST OF SUCH NODES HAS A SOURCE.** -/
theorem exists_source {forest : List Node}
    (h : ∀ entry ∈ Node.levelsAll 0 forest, entry.2.IsExpressible) :
    ∃ source, parse source = .ok forest := by
  obtain ⟨rows, hrows, hread⟩ := exists_rows (Node.levelsAll 0 forest) h
  refine ⟨Source.ofRows rows, parse_eq_ok_iff.mpr ⟨_, ?_, Forest.nest_flattened forest⟩⟩
  -- the lines of the source are the rows, numbered from 1
  rw [Source.lines_ofRows hrows]
  exact hread 1

/-- **THE FORESTS THAT SHORTHAND EXPRESSES** are those of which every node can be
expressed: there is a source that is read as the forest, attributes and styles
in their order, exactly if each node of the forest has a tag, attributes, a text
and styles that a line can hold. -/
theorem exists_source_iff_expressible (forest : List Node) :
    (∃ source, parse source = .ok forest) ↔
      ∀ entry ∈ Node.levelsAll 0 forest, entry.2.IsExpressible := by
  constructor
  · rintro ⟨source, hsource⟩
    exact expressible_of_parse hsource
  · exact exists_source

end MarkupShorthand.Document
