/-
  MarkupShorthand.Proofs.Document.LineByLine
  ──────────────────────────────────────────
  **A DOCUMENT HAS ONE NODE FOR EACH LINE, MADE FROM THAT LINE ALONE; THE INDENTS
  OF THE LINES DECIDE WHERE IT HANGS.**

  Reading gives the elements of the lines in order, nesting keeps their nodes and
  hangs each under the nearest shallower one.  The indent of a line that is read
  is twice its depth, so the nearest shallower node is the last one before of which
  the line has a smaller indent.
-/
import MarkupShorthand.Proofs.Document.Reading
import MarkupShorthand.Proofs.Forest.Flattening
import MarkupShorthand.Proofs.Line.Indent
import MarkupShorthand.Proofs.Source

namespace MarkupShorthand.Document

open Text Forest

theorem indents_of_read {lines : List SourceLine} {elements : List ElementLine}
    (h : List.Forall₂ (fun line element => ElementLine.read line = .ok element) lines elements) :
    lines.map SourceLine.indent = (elements.map ElementLine.depth).map (2 * ·) := by
  induction h with
  | nil => rfl
  | cons hline _ ih =>
    rw [List.map_cons, List.map_cons, List.map_cons, ih, indent_of_read hline]

/-- **ONE NODE FOR EACH LINE.**  A source has a forest exactly if each of its lines
is read.  The nodes of the forest, parents before children and without their
children, are those of the lines in order, as many as there are pieces of the
source that are not blank; and the parent of a node is the last one before it of
which the line has a smaller indent. -/
theorem one_node_for_each_line (source : String) :
    ((∃ forest, parse source = .ok forest)
        ↔ ∀ line ∈ Source.lines source, ∃ element, ElementLine.read line = .ok element)
      ∧ ∀ forest, parse source = .ok forest → ∃ elements,
          List.Forall₂ (fun line element => ElementLine.read line = .ok element)
              (Source.lines source) elements
            ∧ (Node.placedAll none 0 forest).map (fun entry => entry.2.stripped)
                = elements.map ElementLine.node
            ∧ Node.sizeAll forest = (Source.lines source).length
            ∧ Node.sizeAll forest
                = (Source.pieces source).countP (fun piece => !piece.all isBlank)
            ∧ ∀ (place : Nat) (above : Option Nat),
                ((Node.placedAll none 0 forest).map Prod.fst)[place]? = some above →
                NearestShallower ((Source.lines source).map SourceLine.indent) place above := by
  constructor
  · rw [← exists_readLines_iff]
    constructor
    · rintro ⟨forest, hforest⟩
      obtain ⟨items, hitems, -⟩ := parse_eq_ok_iff.mp hforest
      exact ⟨items, hitems⟩
    · rintro ⟨items, hitems⟩
      exact ⟨nest items, parse_eq_ok_iff.mpr ⟨items, hitems, rfl⟩⟩
  · intro forest hforest
    obtain ⟨items, hitems, rfl⟩ := parse_eq_ok_iff.mp hforest
    obtain ⟨elements, hread, rfl⟩ := readLines_eq_ok_iff.mp hitems
    have hchildless : ∀ item ∈ elements.map ElementLine.item, item.1.children = [] := by
      intro item hitem
      obtain ⟨element, -, rfl⟩ := List.mem_map.mp hitem
      rfl
    obtain ⟨hnodes, hparents⟩ := placedAll_nest hchildless
    rw [List.map_map] at hnodes hparents
    have hcount : Node.sizeAll (nest (elements.map ElementLine.item))
        = (Source.lines source).length := by
      have hlength := congrArg List.length hnodes
      rw [List.length_map, List.length_map, Node.length_placedAll] at hlength
      rw [hlength, hread.length_eq]
    refine ⟨elements, hread, hnodes, hcount, ?_, ?_⟩
    · rw [hcount, Source.lines_eq_linesFrom, Source.length_linesFrom]
    · -- the parents are found by depth, and an indent is twice a depth
      intro place above habove
      rw [hparents] at habove
      rw [indents_of_read hread]
      exact (nearestShallower_of_parentPlaces habove).map (by omega)

/-- A document that begins indented, jumps by two levels and comes back to the
level in between. -/
theorem one_node_for_each_line_after_jump :
    let source := "  <a>\n<b>\n\n    <c>\n  <d>"
    let forest : List Node :=
      [{ tag := "a" }, { tag := "b", children := [{ tag := "c" }, { tag := "d" }] }]
    parse source = .ok forest
      ∧ (∃ elements,
          List.Forall₂ (fun line element => ElementLine.read line = .ok element)
              (Source.lines source) elements
            ∧ (Node.placedAll none 0 forest).map (fun entry => entry.2.stripped)
                = elements.map ElementLine.node)
      ∧ (Source.lines source).length = 4
      ∧ NearestShallower [2, 0, 4, 2] 3 (some 1) := by
  intro source forest
  have hparse : parse source = .ok forest := by decide +kernel
  have hindents : (Source.lines source).map SourceLine.indent = [2, 0, 4, 2] := by decide +kernel
  obtain ⟨elements, hread, hnodes, hcount, -, hparents⟩ :=
    (one_node_for_each_line source).2 forest hparse
  rw [hindents] at hparents
  exact ⟨hparse, ⟨elements, hread, hnodes⟩, hcount ▸ rfl, hparents 3 (some 1) rfl⟩

end MarkupShorthand.Document
