/-
  MarkupShorthand.Proofs.Document.Reading
  ───────────────────────────────────────
  **LINES ARE READ ONE BY ONE FROM THE TOP, AND READING STOPS AT THE FIRST BAD
  ONE.**

      readLines_append          lines behind others are read after them
      readLines_map             lines that are each read alike are read alike
      readLines_eq_ok_iff       all lines are read, or
      readLines_eq_error_iff    there is a first one that is not
-/
import Mathlib.Data.List.Forall2
import MarkupShorthand.Document
import MarkupShorthand.Proofs.Line.Moving

namespace MarkupShorthand.Document

open ElementLine

/-! ## §1. One line after the other. -/

theorem readLines_cons (line : SourceLine) (lines : List SourceLine) :
    readLines (line :: lines)
      = (readItem line).bind fun item => (readLines lines).map (item :: ·) := by
  rw [readLines, readItem]
  cases ElementLine.read line with
  | error error => rfl
  | ok element =>
    cases readLines lines with
    | error error => simp [Except.map, Except.bind]
    | ok items => simp [Except.map, Except.bind, item]

theorem readLines_append (lines others : List SourceLine) :
    readLines (lines ++ others)
      = (readLines lines).bind fun items => (readLines others).map (items ++ ·) := by
  induction lines with
  | nil =>
    show readLines others = (readLines others).map ([] ++ ·)
    cases readLines others with
    | error error => rfl
    | ok items => rfl
  | cons line lines ih =>
    rw [List.cons_append, readLines_cons, readLines_cons, ih]
    cases readItem line with
    | error error => rfl
    | ok item =>
      cases readLines lines with
      | error error => rfl
      | ok items =>
        cases readLines others with
        | error error => rfl
        | ok more => rfl

/-- **RUN**: lines of which each is read like another, but for its item and its
error, are read like the others. -/
theorem readLines_map (changeLine : SourceLine → SourceLine)
    (changeItem : Node × Nat → Node × Nat) (changeError : ParseError → ParseError)
    (h : ∀ line, readItem (changeLine line)
      = ((readItem line).map changeItem).mapError changeError) (lines : List SourceLine) :
    readLines (lines.map changeLine)
      = ((readLines lines).map (List.map changeItem)).mapError changeError := by
  induction lines with
  | nil => rfl
  | cons line lines ih =>
    rw [List.map_cons, readLines_cons, readLines_cons, h, ih]
    cases readItem line with
    | error error => rfl
    | ok item =>
      cases readLines lines with
      | error error => rfl
      | ok items => rfl

/-! ## §2. All lines are read. -/

theorem readLines_eq_ok_iff :
    ∀ {lines : List SourceLine} {items : List (Node × Nat)}, readLines lines = .ok items ↔
      ∃ elements, List.Forall₂ (fun line element => ElementLine.read line = .ok element)
        lines elements ∧ elements.map item = items
  | [], items => by
    constructor
    · intro h
      cases h
      exact ⟨[], List.Forall₂.nil, rfl⟩
    · rintro ⟨elements, hread, rfl⟩
      cases hread
      rfl
  | line :: lines, items => by
    rw [readLines_cons]
    unfold readItem
    constructor
    · intro h
      cases hline : ElementLine.read line with
      | error error =>
        rw [hline] at h
        cases h
      | ok element =>
        cases hlines : readLines lines with
        | error error =>
          rw [hline, hlines] at h
          cases h
        | ok others =>
          rw [hline, hlines] at h
          obtain ⟨elements, hread, rfl⟩ := readLines_eq_ok_iff.mp hlines
          exact ⟨element :: elements, List.Forall₂.cons hline hread, Except.ok.inj h⟩
    · rintro ⟨elements, hread, rfl⟩
      cases hread with
      | cons hline hread =>
        rw [hline, readLines_eq_ok_iff.mpr ⟨_, hread, rfl⟩]
        rfl

/-- What is read from the lines comes from one of them. -/
theorem mem_of_readLines {lines : List SourceLine} {items : List (Node × Nat)}
    (h : readLines lines = .ok items) :
    ∀ item ∈ items, ∃ line ∈ lines, ∃ element,
      ElementLine.read line = .ok element ∧ item = (element.node, element.depth) := by
  obtain ⟨elements, hread, rfl⟩ := readLines_eq_ok_iff.mp h
  intro item hitem
  obtain ⟨element, helement, rfl⟩ := List.mem_map.mp hitem
  obtain ⟨place, hplace, rfl⟩ := List.mem_iff_getElem.mp helement
  have hline : place < lines.length := hread.length_eq ▸ hplace
  exact ⟨lines[place], List.getElem_mem hline, _, hread.get hline hplace, rfl⟩

theorem exists_readLines_iff (lines : List SourceLine) :
    (∃ items, readLines lines = .ok items)
      ↔ ∀ line ∈ lines, ∃ element, ElementLine.read line = .ok element := by
  induction lines with
  | nil => simp [readLines]
  | cons line lines ih =>
    rw [List.forall_mem_cons, ← ih, readLines_cons]
    unfold readItem
    constructor
    · rintro ⟨items, h⟩
      cases hline : ElementLine.read line with
      | error error =>
        rw [hline] at h
        cases h
      | ok element =>
        cases hlines : readLines lines with
        | error error =>
          rw [hline, hlines] at h
          cases h
        | ok others => exact ⟨⟨element, rfl⟩, others, rfl⟩
    · rintro ⟨⟨element, hline⟩, others, hlines⟩
      rw [hline, hlines]
      exact ⟨element.item :: others, rfl⟩

/-! ## §3. A line is not read. -/

theorem readLines_eq_error_iff :
    ∀ {lines : List SourceLine} {error : ParseError}, readLines lines = .error error ↔
      ∃ before line after items, lines = before ++ line :: after
        ∧ readLines before = .ok items ∧ ElementLine.read line = .error error
  | [], error => by
    constructor
    · intro h
      cases h
    · rintro ⟨before, line, after, items, h, -⟩
      simp at h
  | line :: lines, error => by
    constructor
    · intro h
      rw [readLines_cons, readItem] at h
      cases hline : ElementLine.read line with
      | error found =>
        rw [hline] at h
        refine ⟨[], line, lines, [], rfl, rfl, ?_⟩
        rw [hline, ← Except.error.inj h]
      | ok element =>
        rw [hline] at h
        cases hlines : readLines lines with
        | error found =>
          -- the first bad line is behind this one
          rw [hlines] at h
          obtain ⟨before, bad, after, items, rfl, hbefore, hbad⟩ :=
            readLines_eq_error_iff.mp hlines
          refine ⟨line :: before, bad, after, element.item :: items, rfl, ?_, ?_⟩
          · rw [readLines_cons, readItem, hline, hbefore]
            rfl
          · rw [hbad, ← Except.error.inj h]
        | ok items =>
          rw [hlines] at h
          cases h
    · rintro ⟨before, bad, after, items, hlines, hbefore, hbad⟩
      rw [hlines, readLines_append, hbefore, readLines_cons, readItem, hbad]
      rfl

/-! ## §4. Parsing. -/

theorem parse_eq_ok_iff {source : String} {forest : List Node} :
    parse source = .ok forest ↔
      ∃ items, readLines (Source.lines source) = .ok items ∧ Forest.nest items = forest := by
  unfold parse
  cases readLines (Source.lines source) with
  | error error => simp [Except.map]
  | ok items => simp [Except.map]

theorem parse_eq_error_iff {source : String} {error : ParseError} :
    parse source = .error error ↔ readLines (Source.lines source) = .error error := by
  unfold parse
  cases readLines (Source.lines source) with
  | error error => simp [Except.map]
  | ok items => simp [Except.map]

end MarkupShorthand.Document
