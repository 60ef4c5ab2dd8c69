/-
  MarkupShorthand.Proofs.Line.Moving
  ──────────────────────────────────
  **A LINE THAT STANDS FURTHER DOWN OR A LEVEL FURTHER IN IS READ AS IT WAS.**

      read_below       its number is that of its place, all else is the same
      read_indented    its depth is one more, all else is the same

  A line that is refused is refused for the same fault.
-/
import MarkupShorthand.Line.ElementLine
import MarkupShorthand.Proofs.Text.Run

namespace MarkupShorthand

open Text

/-! ## §1. Moved lines. -/

/-- The line that many places further down. -/
def SourceLine.below (further : Nat) (line : SourceLine) : SourceLine :=
  { line with number := line.number + further }

/-- The line one level further in. -/
def SourceLine.indented (line : SourceLine) : SourceLine :=
  { line with text := "  " ++ line.text }

/-- The error of a line that stands further down. -/
def ParseError.below (further : Nat) (error : ParseError) : ParseError :=
  { error with number := error.number + further }

/-- The error of a line that stands further in. -/
def ParseError.indented (error : ParseError) : ParseError :=
  { error with line := "  " ++ error.line }

namespace ElementLine

/-- The element of a line that stands further down. -/
def below (further : Nat) (element : ElementLine) : ElementLine :=
  { element with number := element.number + further }

/-- The element of a line that stands further in. -/
def indented (element : ElementLine) : ElementLine :=
  { element with indent := element.indent + indentWidth }

/-! ## §2. Further down. -/

theorem read_below (further : Nat) (line : SourceLine) :
    read (line.below further)
      = ((read line).map (below further)).mapError (ParseError.below further) := by
  obtain ⟨number, text⟩ := line
  unfold read SourceLine.below
  cases Shape.ofChars? text.toList with
  | none => rfl
  | some shape =>
    by_cases h : isIndent shape.indent = true
    · simp only [h, if_true]
      rfl
    · simp only [h]
      rfl

/-- An error is about the line that was read. -/
theorem error_of_read {line : SourceLine} {error : ParseError} (h : read line = .error error) :
    error.number = line.number ∧ error.line = line.text := by
  unfold read at h
  split at h
  · rw [← Except.error.inj h]
    exact ⟨rfl, rfl⟩
  · split at h
    · cases h
    · rw [← Except.error.inj h]
      exact ⟨rfl, rfl⟩

/-! ## §3. Further in. -/

theorem ofChars?_indented (cs : List Char) :
    Shape.ofChars? (' ' :: ' ' :: cs)
      = (Shape.ofChars? cs).map fun shape =>
          { shape with indent := ' ' :: ' ' :: shape.indent } := by
  have hspace : isBlank ' ' = true := by decide
  have htrim : trimStart (' ' :: ' ' :: cs) = trimStart cs := by
    rw [trimStart_cons_of_blank hspace, trimStart_cons_of_blank hspace]
  have hindent : (' ' :: ' ' :: cs).takeWhile isBlank = ' ' :: ' ' :: cs.takeWhile isBlank := by
    rw [List.takeWhile_cons_of_pos hspace, List.takeWhile_cons_of_pos hspace]
  -- from the tag on both lines are the same
  unfold Shape.ofChars?
  rw [htrim, hindent]
  cases Shape.cutTag (trimStart cs) with
  | none => rfl
  | some tag =>
    dsimp only
    split
    · rfl
    · rfl

theorem isIndent_indented (cs : List Char) : isIndent (' ' :: ' ' :: cs) = isIndent cs := by
  have hwidth : (' ' :: ' ' :: cs).length % indentWidth = cs.length % indentWidth :=
    Nat.add_mod_right cs.length 2
  unfold isIndent
  rw [hwidth]
  rfl

theorem read_indented (line : SourceLine) :
    read line.indented = ((read line).map indented).mapError ParseError.indented := by
  obtain ⟨number, text⟩ := line
  have hchars : ("  " ++ text).toList = ' ' :: ' ' :: text.toList := by
    rw [String.toList_append]
    rfl
  unfold read SourceLine.indented
  simp only [hchars, ofChars?_indented]
  cases Shape.ofChars? text.toList with
  | none => rfl
  | some shape =>
    simp only [Option.map_some, isIndent_indented]
    by_cases h : isIndent shape.indent = true
    · simp only [h, if_true]
      rfl
    · simp only [h]
      rfl

/-! ## §4. What a line contributes to a forest. -/

/-- The node of a line and the level that it asks for. -/
def item (element : ElementLine) : Node × Nat :=
  (element.node, element.depth)

/-- Reads what a line contributes. -/
def readItem (line : SourceLine) : Except ParseError (Node × Nat) :=
  (read line).map item

theorem item_indented (element : ElementLine) :
    element.indented.item = (element.node, element.depth + 1) := by
  have hdepth : (element.indent + 2) / 2 = element.indent / 2 + 1 := by omega
  show (element.node, (element.indent + 2) / 2) = _
  rw [hdepth]
  rfl

theorem readItem_below (further : Nat) (line : SourceLine) :
    readItem (line.below further) = (readItem line).mapError (ParseError.below further) := by
  unfold readItem
  rw [read_below]
  cases read line with
  | error error => rfl
  | ok element => rfl

theorem readItem_indented (line : SourceLine) :
    readItem line.indented
      = ((readItem line).map fun item => (item.1, item.2 + 1)).mapError ParseError.indented := by
  unfold readItem
  rw [read_indented]
  cases read line with
  | error error => rfl
  | ok element => exact congrArg Except.ok element.item_indented

end ElementLine

end MarkupShorthand
