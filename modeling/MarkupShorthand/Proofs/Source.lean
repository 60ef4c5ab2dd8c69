/-
  MarkupShorthand.Proofs.Source
  ─────────────────────────────
  **A TEXT IS READ PIECE BY PIECE: A PIECE BETWEEN TWO LINE FEEDS IS A LINE WITH
  ITS PLACE, OR IT IS BLANK.**

  The lines are cut from the text after its tabs were expanded; they are the
  same when the text is cut first and each piece is expanded by itself
  (`lines_eq_linesFrom`).  From there on a text is the list of its pieces:

      linesFrom_append    what stands in front decides the numbers and nothing
                          else
      exists_piece        a line is one of the pieces, and the lines before it
                          are those of the pieces before
      length_linesFrom    every piece that is not blank is a line
      lines_ofRows        rows without tabs and line feeds that end visibly are
                          lines as they stand
-/
import MarkupShorthand.Proofs.Text.Joined
import MarkupShorthand.Proofs.Text.Trim
import MarkupShorthand.Source

namespace MarkupShorthand.Source

open Text

/-! ## §1. What a line cannot hold. -/

theorem not_mem_expandTabs (cs : List Char) : '\t' ∉ expandTabs cs := by
  intro h
  obtain ⟨c, -, hc⟩ := List.mem_flatMap.mp h
  by_cases htab : c = '\t'
  · rw [if_pos htab] at hc
    exact absurd hc (by decide)
  · rw [if_neg htab, List.mem_singleton] at hc
    exact htab hc.symm

/-- A text without tabs has none to expand. -/
theorem expandTabs_eq_self {cs : List Char} (h : '\t' ∉ cs) : expandTabs cs = cs := by
  induction cs with
  | nil => rfl
  | cons c cs ih =>
    have hc : ¬ c = '\t' := fun e => h (e ▸ List.mem_cons_self)
    unfold expandTabs at ih ⊢
    rw [List.flatMap_cons, if_neg hc, ih fun hmem => h (List.mem_cons_of_mem c hmem)]
    rfl

theorem line?_eq_some {piece : List Char} {number : Nat} {line : SourceLine}
    (h : line? piece number = some line) : line.text.toList = trimEnd piece := by
  unfold line? at h
  split at h
  · cases h
  · rw [← Option.some.inj h, String.toList_ofList]

/-- **NO LINE HOLDS A TAB OR A LINE FEED.** -/
theorem free_of_mem_lines {source : String} {line : SourceLine} (h : line ∈ lines source) :
    FreeOf ['\n', '\t'] line.text.toList := by
  obtain ⟨⟨piece, number⟩, hpiece, hline⟩ := List.mem_filterMap.mp h
  have hmem : piece ∈ (expandTabs source.toList).splitOn '\n' := List.fst_mem_of_mem_zipIdx hpiece
  rw [line?_eq_some hline]
  -- a line is a piece between two line feeds of a text in which no tab is left
  intro c hc hbanned
  obtain ⟨hsource, hnewline⟩ := mem_of_mem_splitOn hmem (mem_of_mem_trimEnd hc)
  rcases List.mem_cons.mp hbanned with hc | hc
  · exact hnewline hc
  · rw [List.mem_singleton.mp hc] at hsource
    exact not_mem_expandTabs source.toList hsource

/-! ## §2. Pieces. -/

/-- What stands between the line feeds of a text. -/
def pieces (source : String) : List (List Char) :=
  source.toList.splitOn '\n'

/-- The text with these rows. -/
def ofRows (rows : List (List Char)) : String :=
  .ofList (['\n'].intercalate rows)

theorem pieces_ne_nil (source : String) : pieces source ≠ [] :=
  List.splitOn_ne_nil '\n' source.toList

theorem newline_not_mem_piece {source : String} {piece : List Char}
    (h : piece ∈ pieces source) : '\n' ∉ piece :=
  fun hmem => (mem_of_mem_splitOn h hmem).2 rfl

/-- There is one piece more than there are line feeds. -/
theorem length_pieces (source : String) :
    (pieces source).length = source.toList.count '\n' + 1 := by
  unfold pieces
  induction source.toList with
  | nil => rfl
  | cons c cs ih =>
    rw [List.splitOn_cons_eq_if_modifyHead, List.count_cons]
    by_cases hc : (c == '\n') = true
    · rw [if_pos hc, if_pos hc, List.length_cons, ih]
    · rw [if_neg hc, if_neg hc, List.length_modifyHead, ih, Nat.add_zero]

/-- A line feed between two texts ends a piece. -/
theorem pieces_append (source more : String) :
    pieces (source ++ "\n" ++ more) = pieces source ++ pieces more := by
  have hchars : (source ++ "\n" ++ more).toList = source.toList ++ '\n' :: more.toList := by
    simp
  unfold pieces
  rw [hchars, List.splitOn_append_cons_self]

theorem pieces_ofRows {rows : List (List Char)} (h : ∀ row ∈ rows, '\n' ∉ row)
    (hne : rows ≠ []) : pieces (ofRows rows) = rows := by
  unfold pieces ofRows
  rw [String.toList_ofList]
  exact List.splitOn_intercalate '\n' h hne

/-! ## §3. Tabs and blanks of a piece. -/

theorem expandTabs_append (cs ds : List Char) :
    expandTabs (cs ++ ds) = expandTabs cs ++ expandTabs ds :=
  List.flatMap_append

theorem newline_not_mem_expandTabs {cs : List Char} (h : '\n' ∉ cs) : '\n' ∉ expandTabs cs := by
  intro hmem
  obtain ⟨c, hc, hnewline⟩ := List.mem_flatMap.mp hmem
  split at hnewline
  · exact absurd hnewline (by decide)
  · rw [List.mem_singleton] at hnewline
    exact h (hnewline ▸ hc)

theorem expandTabs_intercalate :
    ∀ pieces : List (List Char),
      expandTabs (['\n'].intercalate pieces) = ['\n'].intercalate (pieces.map expandTabs)
  | [] => rfl
  | [piece] => by simp
  | piece :: next :: others => by
    have hothers := expandTabs_intercalate (next :: others)
    rw [List.intercalate_cons_cons, expandTabs_append, expandTabs_append, hothers]
    simp only [List.map_cons, List.intercalate_cons_cons]
    rfl

/-- The pieces of an expanded text are the expanded pieces of the text. -/
theorem splitOn_expandTabs (source : String) :
    (expandTabs source.toList).splitOn '\n' = (pieces source).map expandTabs := by
  have hjoined : source.toList = ['\n'].intercalate (pieces source) :=
    (List.intercalate_splitOn '\n').symm
  rw [hjoined, expandTabs_intercalate]
  refine List.splitOn_intercalate '\n' ?_ (by simp [pieces_ne_nil])
  intro row hrow
  obtain ⟨piece, hpiece, rfl⟩ := List.mem_map.mp hrow
  exact newline_not_mem_expandTabs (newline_not_mem_piece hpiece)

/-- A piece is blank whether its tabs are expanded or not. -/
theorem all_isBlank_expandTabs (cs : List Char) :
    (expandTabs cs).all isBlank = cs.all isBlank := by
  induction cs with
  | nil => rfl
  | cons c cs ih =>
    have hfirst : (if c = '\t' then [' ', ' '] else [c]).all isBlank = isBlank c := by
      split
      · next htab => rw [htab]; decide
      · simp
    unfold expandTabs at ih ⊢
    rw [List.flatMap_cons, List.all_append, hfirst, ih, List.all_cons]

/-! ## §4. Lines, piece by piece. -/

/-- A piece is a line unless nothing visible is in it. -/
theorem line?_eq (piece : List Char) (number : Nat) :
    line? piece number
      = if trimEnd piece = [] then none else some ⟨number, .ofList (trimEnd piece)⟩ := by
  unfold line?
  split
  · next h => rw [if_pos h]
  · next h => rw [if_neg h]

/-- The lines of pieces, the first of which has this place in the text. -/
def linesFrom (first : Nat) : List (List Char) → List SourceLine
  | [] => []
  | piece :: pieces => (line? (expandTabs piece) first).toList ++ linesFrom (first + 1) pieces

theorem filterMap_line?_zipIdx :
    ∀ (pieces : List (List Char)) (first : Nat),
      ((pieces.map expandTabs).zipIdx first).filterMap (fun (piece, number) => line? piece number)
        = linesFrom first pieces
  | [], _ => rfl
  | piece :: pieces, first => by
    rw [List.map_cons, List.zipIdx_cons, List.filterMap_cons,
      filterMap_line?_zipIdx pieces (first + 1), linesFrom]
    cases hline : line? (expandTabs piece) first with
    | none => simp [hline]
    | some line => simp [hline]

/-- **THE LINES OF A TEXT ARE THOSE OF ITS PIECES.** -/
theorem lines_eq_linesFrom (source : String) : lines source = linesFrom 1 (pieces source) := by
  unfold lines
  rw [splitOn_expandTabs, filterMap_line?_zipIdx]

theorem linesFrom_append :
    ∀ (pieces others : List (List Char)) (first : Nat),
      linesFrom first (pieces ++ others)
        = linesFrom first pieces ++ linesFrom (first + pieces.length) others
  | [], _, _ => rfl
  | piece :: pieces, others, first => by
    have hplace : first + (piece :: pieces).length = first + 1 + pieces.length := by
      rw [List.length_cons]
      omega
    rw [List.cons_append, linesFrom, linesFrom, linesFrom_append pieces others (first + 1),
      List.append_assoc, hplace]

/-- Where changed pieces are changed lines further down, they make the changed
lines. -/
theorem linesFrom_map (change : List Char → List Char) (changeLine : SourceLine → SourceLine)
    (further : Nat)
    (h : ∀ piece number, line? (expandTabs (change piece)) (number + further)
      = (line? (expandTabs piece) number).map changeLine) :
    ∀ (pieces : List (List Char)) (first : Nat),
      linesFrom (first + further) (pieces.map change) = (linesFrom first pieces).map changeLine
  | [], _ => rfl
  | piece :: pieces, first => by
    rw [List.map_cons, linesFrom, linesFrom, h, Nat.add_right_comm,
      linesFrom_map change changeLine further h pieces (first + 1), List.map_append,
      Option.toList_map]

/-- **A LINE IS ONE OF THE PIECES**, and the lines before it are those of the
pieces before that one. -/
theorem exists_piece :
    ∀ {pieces : List (List Char)} {first : Nat} {before after : List SourceLine}
      {line : SourceLine}, linesFrom first pieces = before ++ line :: after →
      ∃ ahead piece behind, pieces = ahead ++ piece :: behind
        ∧ linesFrom first ahead = before
        ∧ line? (expandTabs piece) (first + ahead.length) = some line
  | [], _, before, _, _, h => by
    simp [linesFrom] at h
  | piece :: pieces, first, before, after, line, h => by
    rw [linesFrom] at h
    cases hpiece : line? (expandTabs piece) first with
    | none =>
      -- a blank piece goes to those ahead and adds no line
      rw [hpiece] at h
      obtain ⟨ahead, found, behind, rfl, hbefore, hfound⟩ := exists_piece h
      refine ⟨piece :: ahead, found, behind, rfl, ?_, ?_⟩
      · rw [linesFrom, hpiece, hbefore]
        rfl
      · rw [← hfound, List.length_cons, Nat.add_assoc, Nat.add_comm 1]
    | some first' =>
      rw [hpiece] at h
      cases before with
      | nil =>
        obtain ⟨rfl, -⟩ := List.cons.inj h
        exact ⟨[], piece, pieces, rfl, rfl, hpiece⟩
      | cons other before =>
        obtain ⟨rfl, hrest⟩ := List.cons.inj h
        obtain ⟨ahead, found, behind, rfl, hbefore, hfound⟩ := exists_piece hrest
        refine ⟨piece :: ahead, found, behind, rfl, ?_, ?_⟩
        · rw [linesFrom, hpiece, hbefore]
          rfl
        · rw [← hfound, List.length_cons, Nat.add_assoc, Nat.add_comm 1]

/-- **EVERY PIECE THAT IS NOT BLANK IS A LINE.** -/
theorem length_linesFrom :
    ∀ (pieces : List (List Char)) (first : Nat),
      (linesFrom first pieces).length = pieces.countP fun piece => !piece.all isBlank
  | [], _ => rfl
  | piece :: pieces, first => by
    have hblank : trimEnd (expandTabs piece) = [] ↔ piece.all isBlank = true := by
      rw [trimEnd_eq_nil_iff, all_isBlank_expandTabs]
    rw [linesFrom, List.length_append, length_linesFrom pieces (first + 1), List.countP_cons,
      line?_eq]
    by_cases h : piece.all isBlank = true
    · simp [hblank, h]
    · simp [hblank, h, Nat.add_comm]

/-! ## §5. Rows. -/

/-- A row of a text that is a line as it stands. -/
structure IsRow (row : List Char) : Prop where
  /-- It is not empty. -/
  ne_nil : row ≠ []
  /-- It ends visibly. -/
  ends : EndsVisible row
  /-- It is one row and has no tab. -/
  free : FreeOf ['\n', '\t'] row

/-- The rows as lines, the first of which has this number. -/
def numbered (first : Nat) : List (List Char) → List SourceLine
  | [] => []
  | row :: rows => ⟨first, .ofList row⟩ :: numbered (first + 1) rows

theorem line?_row {row : List Char} (h : IsRow row) (number : Nat) :
    line? row number = some ⟨number, .ofList row⟩ := by
  unfold line?
  rw [trimEnd_eq_self h.ends]
  cases row with
  | nil => exact absurd rfl h.ne_nil
  | cons c cs => rfl

theorem linesFrom_rows :
    ∀ {rows : List (List Char)} (first : Nat), (∀ row ∈ rows, IsRow row) →
      linesFrom first rows = numbered first rows
  | [], _, _ => rfl
  | row :: rows, first, h => by
    have hrow := h row List.mem_cons_self
    rw [linesFrom, expandTabs_eq_self (hrow.free.not_mem (by decide)), line?_row hrow,
      linesFrom_rows (first + 1) fun other hother => h other (List.mem_cons_of_mem row hother)]
    rfl

/-- The lines of a joined text are those of the rows. -/
theorem lines_ofRows_eq_linesFrom {rows : List (List Char)} (h : ∀ row ∈ rows, '\n' ∉ row) :
    lines (ofRows rows) = linesFrom 1 rows := by
  by_cases hne : rows = []
  · -- a text without rows has one piece, and that is blank
    subst hne
    decide
  · rw [lines_eq_linesFrom, pieces_ofRows h hne]

/-- **THE LINES OF A TEXT ARE ITS ROWS.** -/
theorem lines_ofRows {rows : List (List Char)} (h : ∀ row ∈ rows, IsRow row) :
    lines (ofRows rows) = numbered 1 rows := by
  rw [lines_ofRows_eq_linesFrom fun row hrow => (h row hrow).free.not_mem (by decide),
    linesFrom_rows 1 h]

end MarkupShorthand.Source
