/-
  MarkupShorthand.Proofs.Document.Rendering
  ─────────────────────────────────────────
  **A SOURCE IS RENDERED WHEN IT IS READ, AND THE LINES OF ITS DOCUMENT ARE THE
  ROWS OF ITS FOREST.**

      render_eq_ok_iff       a document is that of the forest that was read
      render_eq_error_iff    an error is that of reading
      renderForest_append    forests side by side, documents one below the other
      pieces_renderForest    a row never falls into several lines, because no node
                             that was read holds a line feed
-/
import MarkupShorthand.Proofs.Dialect.OneLined
import MarkupShorthand.Proofs.Document.Image

namespace MarkupShorthand

open Document

/-- No node that was read holds a line feed. -/
theorem Document.newlineFree_of_parse {source : String} {forest : List Node}
    (h : parse source = .ok forest) : ∀ entry ∈ Node.levelsAll 0 forest, entry.2.NewlineFree :=
  fun entry hentry => (expressible_of_parse h entry hentry).newlineFree

namespace OutputFormat

/-! ## §1. Rendering a source. -/

theorem render_eq_ok_iff {format : OutputFormat} {source output : String} :
    format.render source = .ok output ↔
      ∃ forest, parse source = .ok forest ∧ format.renderForest forest = output := by
  unfold render
  cases parse source with
  | error error => simp [Except.map]
  | ok forest => simp [Except.map]

theorem render_eq_error_iff {format : OutputFormat} {source : String} {error : ParseError} :
    format.render source = .error error ↔ parse source = .error error := by
  unfold render
  cases parse source with
  | error error => simp [Except.map]
  | ok forest => simp [Except.map]

/-! ## §2. The document of a forest. -/

/-- The document of two forests, of which either may be empty. -/
theorem renderForest_append (format : OutputFormat) (forest others : List Node) :
    format.renderForest (forest ++ others)
      = if forest.isEmpty then format.renderForest others
        else if others.isEmpty then format.renderForest forest
        else format.renderForest forest ++ "\n" ++ format.renderForest others := by
  cases forest with
  | nil => rfl
  | cons node forest =>
    cases others with
    | nil =>
      rw [List.append_nil]
      rfl
    | cons other others =>
      exact format.dialect.render_append (List.cons_ne_nil _ _) (List.cons_ne_nil _ _)

/-- **THE LINES OF A DOCUMENT ARE ITS ROWS** where its forest was read. -/
theorem pieces_renderForest (format : OutputFormat) {source : String} {forest : List Node}
    (h : parse source = .ok forest) (hne : forest ≠ []) :
    Source.pieces (format.renderForest forest) = Node.rowsAll format.dialect 0 forest :=
  format.pieces_renderForest_of (newlineFree_of_parse h) hne

end OutputFormat

end MarkupShorthand
