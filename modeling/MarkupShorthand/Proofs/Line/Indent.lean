/-
  MarkupShorthand.Proofs.Line.Indent
  ──────────────────────────────────
  **A LEVEL IS TWO SPACES: THE INDENT OF A LINE THAT IS READ IS TWICE ITS DEPTH.**

  So lines are compared by their indents or by their depths alike.
-/
import MarkupShorthand.Proofs.Line.Reading

namespace MarkupShorthand

open Text

/-- How far a line is indented. -/
def SourceLine.indent (line : SourceLine) : Nat :=
  (line.text.toList.takeWhile isBlank).length

theorem indent_of_read {line : SourceLine} {element : ElementLine}
    (h : ElementLine.read line = .ok element) : line.indent = 2 * element.depth := by
  obtain ⟨number, text⟩ := line
  obtain ⟨parts, hparts, ⟨levels, hlevels⟩, rfl⟩ := parts_of_read h
  have hindent : text.toList.takeWhile isBlank = parts.indent := by
    rw [← hparts]
    exact takeWhile_append_stops parts.indent_blank (stops_cons (by decide))
  have hdepth : (parts.element number).depth = parts.indent.length / 2 := rfl
  show (text.toList.takeWhile isBlank).length = _
  rw [hindent, hdepth, hlevels, List.length_replicate]
  omega

end MarkupShorthand
