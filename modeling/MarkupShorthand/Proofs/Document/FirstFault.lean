/-
  MarkupShorthand.Proofs.Document.FirstFault
  ──────────────────────────────────────────
  **AN ERROR NAMES THE FIRST BAD PIECE OF THE SOURCE; WHAT STANDS BEHIND IT IS
  NEVER LOOKED AT, AND BY ITSELF THE PIECE IS AS BAD.**

  A source fails exactly if its pieces are `ahead ++ piece :: behind`, where all
  lines ahead are read and the line of the piece is not
  (`fails_iff_bad_piece`).  `behind` does not occur in what is said of the error.
-/
import MarkupShorthand.Proofs.Document.Reading
import MarkupShorthand.Proofs.Source

namespace MarkupShorthand.Document

open Text Source

/-! ## §1. A bad piece. -/

/-- The line of a piece: its tabs expanded, its end trimmed. -/
def lineText (piece : List Char) : List Char :=
  trimEnd (expandTabs piece)

/-- The line of the piece is refused at this place. -/
structure BadPiece (piece : List Char) (number : Nat) (error : ParseError) : Prop where
  /-- The piece is not blank. -/
  visible : lineText piece ≠ []
  /-- The line is refused. -/
  refused : ElementLine.read ⟨number, .ofList (lineText piece)⟩ = .error error

theorem BadPiece.line? {piece : List Char} {number : Nat} {error : ParseError}
    (h : BadPiece piece number error) :
    Source.line? (expandTabs piece) number = some ⟨number, .ofList (lineText piece)⟩ := by
  rw [line?_eq]
  exact if_neg h.visible

theorem BadPiece.number_eq {piece : List Char} {number : Nat} {error : ParseError}
    (h : BadPiece piece number error) : error.number = number :=
  (ElementLine.error_of_read h.refused).1

theorem BadPiece.line_eq {piece : List Char} {number : Nat} {error : ParseError}
    (h : BadPiece piece number error) : error.line = .ofList (lineText piece) :=
  (ElementLine.error_of_read h.refused).2

/-- A piece that is bad at its place is bad in the first place. -/
theorem BadPiece.first {piece : List Char} {further : Nat} {error : ParseError}
    (h : BadPiece piece (1 + further) error) : BadPiece piece 1 ⟨error.fault, 1, error.line⟩ := by
  have hmoved : Except.error error
      = ((ElementLine.read ⟨1, .ofList (lineText piece)⟩).map (ElementLine.below further)).mapError
        (ParseError.below further) :=
    h.refused.symm.trans (ElementLine.read_below further ⟨1, .ofList (lineText piece)⟩)
  refine ⟨h.visible, ?_⟩
  cases hread : ElementLine.read ⟨1, .ofList (lineText piece)⟩ with
  | ok element =>
    rw [hread] at hmoved
    cases hmoved
  | error found =>
    rw [hread] at hmoved
    have hfound : error = found.below further := Except.error.inj hmoved
    have hnumber : found.number = 1 := (ElementLine.error_of_read hread).1
    rw [hfound, ParseError.below, ← hnumber]

/-- **A SOURCE FAILS AT THE FIRST BAD PIECE**, whatever stands behind it. -/
theorem fails_iff_bad_piece {source : String} {error : ParseError} :
    parse source = .error error ↔
      ∃ ahead piece behind items, pieces source = ahead ++ piece :: behind
        ∧ readLines (linesFrom 1 ahead) = .ok items
        ∧ BadPiece piece (1 + ahead.length) error := by
  rw [parse_eq_error_iff, lines_eq_linesFrom]
  constructor
  · intro h
    obtain ⟨before, line, after, items, hlines, hbefore, hbad⟩ := readLines_eq_error_iff.mp h
    obtain ⟨ahead, piece, behind, hpieces, rfl, hline⟩ := exists_piece hlines
    rw [line?_eq] at hline
    split at hline
    · cases hline
    · next hvisible =>
      rw [← Option.some.inj hline] at hbad
      exact ⟨ahead, piece, behind, items, hpieces, hbefore, hvisible, hbad⟩
  · rintro ⟨ahead, piece, behind, items, hpieces, hahead, hbad⟩
    have hlines : linesFrom 1 (pieces source)
        = linesFrom 1 ahead ++ ⟨1 + ahead.length, .ofList (lineText piece)⟩
          :: linesFrom (1 + ahead.length + 1) behind := by
      rw [hpieces, linesFrom_append, linesFrom, hbad.line?]
      rfl
    exact readLines_eq_error_iff.mpr ⟨_, _, _, items, hlines, hahead, hbad.refused⟩

/-! ## §2. A bad piece by itself. -/

/-- The line of a piece is a row: it is the same when it is read once more. -/
theorem isRow_lineText {source : String} {piece : List Char} (hpiece : piece ∈ pieces source)
    (hvisible : lineText piece ≠ []) : IsRow (lineText piece) where
  ne_nil := hvisible
  ends := endsVisible_trimEnd (expandTabs piece)
  free := by
    intro c hc hbanned
    have hmem : c ∈ expandTabs piece := mem_of_mem_trimEnd hc
    rcases List.mem_cons.mp hbanned with rfl | htab
    · exact newline_not_mem_expandTabs (newline_not_mem_piece hpiece) hmem
    · rw [List.mem_singleton.mp htab] at hmem
      exact not_mem_expandTabs piece hmem

theorem parse_bad_line {source : String} {piece : List Char} {error : ParseError}
    (hpiece : piece ∈ pieces source) (h : BadPiece piece 1 error) :
    parse (.ofList (lineText piece)) = .error error := by
  have hrow : ∀ row ∈ [lineText piece], IsRow row := by
    intro row hrow
    rw [List.mem_singleton.mp hrow]
    exact isRow_lineText hpiece h.visible
  have hsource : ofRows [lineText piece] = .ofList (lineText piece) := by
    unfold ofRows
    rw [List.intercalate_singleton]
  rw [parse_eq_error_iff, ← hsource, lines_ofRows hrow, numbered, readLines_cons,
    ElementLine.readItem, h.refused]
  rfl

/-! ## §3. Errors. -/

/-- **AN ERROR IS THE FIRST BAD LINE.**  Its number is a place in the source, and
its line is the piece of the source at that place with tabs expanded and the end
trimmed, and is not empty.  The pieces before it make a source without errors; the
line by itself is a source with the same fault in line 1; and every source that
begins with the same pieces up to that place has the same error. -/
theorem error_is_first_bad_line {source : String} {error : ParseError}
    (h : parse source = .error error) :
    (1 ≤ error.number ∧ error.number ≤ source.toList.count '\n' + 1)
      ∧ (∃ piece, (pieces source)[error.number - 1]? = some piece
          ∧ error.line.toList = trimEnd (expandTabs piece))
      ∧ error.line ≠ ""
      ∧ (∃ forest, parse (ofRows ((pieces source).take (error.number - 1))) = .ok forest)
      ∧ parse error.line = .error ⟨error.fault, 1, error.line⟩
      ∧ ∀ other : String,
          (pieces other).take error.number = (pieces source).take error.number →
          parse other = .error error := by
  obtain ⟨ahead, piece, behind, items, hpieces, hahead, hbad⟩ := fails_iff_bad_piece.mp h
  have hmem : ∀ found ∈ ahead ++ [piece], found ∈ pieces source := by
    intro found hfound
    rw [hpieces, ← List.singleton_append, ← List.append_assoc]
    exact List.mem_append_left behind hfound
  have hpiece : piece ∈ pieces source := hmem piece (by simp)
  have hplace : error.number - 1 = ahead.length := by
    rw [hbad.number_eq]
    omega
  refine ⟨⟨?_, ?_⟩, ⟨piece, ?_, ?_⟩, ?_, ?_, ?_, ?_⟩
  · rw [hbad.number_eq]
    omega
  · rw [hbad.number_eq, ← length_pieces, hpieces, List.length_append, List.length_cons]
    omega
  · rw [hplace, hpieces, List.getElem?_append_right (Nat.le_refl _), Nat.sub_self]
    rfl
  · rw [hbad.line_eq, String.toList_ofList]
    rfl
  · rw [hbad.line_eq]
    intro hempty
    apply hbad.visible
    rw [← String.toList_ofList (l := lineText piece), hempty]
    rfl
  · refine ⟨_, parse_eq_ok_iff.mpr ⟨items, ?_, rfl⟩⟩
    rw [hplace, hpieces, List.take_left, lines_ofRows_eq_linesFrom, hahead]
    intro row hrow
    exact newline_not_mem_piece (hmem row (List.mem_append_left _ hrow))
  · have halone := parse_bad_line hpiece hbad.first
    rwa [← hbad.line_eq] at halone
  · -- the other source has the same pieces ahead, the same bad piece and anything behind
    intro other hother
    refine fails_iff_bad_piece.mpr
      ⟨ahead, piece, (pieces other).drop error.number, items, ?_, hahead, hbad⟩
    have htake : (pieces source).take error.number = ahead ++ [piece] := by
      rw [hpieces, List.append_cons]
      refine List.take_left' ?_
      rw [hbad.number_eq, List.length_append, List.length_singleton, Nat.add_comm]
    have hsplit := List.take_append_drop error.number (pieces other)
    rw [hother, htake, List.append_assoc] at hsplit
    exact hsplit.symm

/-- The third line is refused for its indent, and the fourth is never read. -/
theorem error_is_first_bad_line_after_blank :
    let source := "<a>\n\n\t <b> \n<c"
    let error : ParseError := ⟨.indent, 3, "   <b>"⟩
    parse source = .error error
      ∧ (pieces source)[2]? = some "\t <b> ".toList
      ∧ (∃ forest, parse "<a>\n" = .ok forest)
      ∧ parse "   <b>" = .error ⟨.indent, 1, "   <b>"⟩
      ∧ parse "<a>\n\n\t <b> \n  <d>\n" = .error error := by
  intro source error
  have hparse : parse source = .error error := by decide +kernel
  have hpiece : (pieces source)[2]? = some "\t <b> ".toList := by decide +kernel
  have hahead : ofRows ((pieces source).take 2) = "<a>\n" := by decide +kernel
  have hother : (pieces "<a>\n\n\t <b> \n  <d>\n").take 3 = (pieces source).take 3 := by
    decide +kernel
  obtain ⟨-, -, -, hbefore, halone, hsame⟩ := error_is_first_bad_line hparse
  exact ⟨hparse, hpiece, hahead ▸ hbefore, halone, hsame _ hother⟩

end MarkupShorthand.Document
