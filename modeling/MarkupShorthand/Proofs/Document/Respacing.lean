/-
  MarkupShorthand.Proofs.Document.Respacing
  ─────────────────────────────────────────
  **WHITE SPACE COUNTS BY THE COLUMN THAT IT REACHES, AND NOT AT ALL AT THE END
  OF A LINE OR ON A LINE OF ITS OWN.**

      lines_tab         a tab is two spaces, wherever it stands
      lines_gap         blanks in front of a line feed, or at the end, leave
                        every line as it was
      lines_inserted    a blank line moves the lines behind it one further down
      parse_respaced    so the forest stays, and the error but for its number

  Each of the three says what becomes of the lines; what is made of the lines
  never looks at the source again.
-/
import MarkupShorthand.Proofs.Document.Joining

namespace MarkupShorthand

open Text

/-! ## §1. Tabs. -/

namespace Source

/-- **A TAB IS TWO SPACES**, wherever it stands. -/
theorem lines_tab (before after : String) :
    lines (before ++ "\t" ++ after) = lines (before ++ "  " ++ after) := by
  have htab : expandTabs "\t".toList = expandTabs "  ".toList := by decide
  unfold lines
  simp only [String.toList_append, expandTabs_append, htab]

/-! ## §2. Blanks at the end of a line. -/

/-- Blanks without a line feed: they are at the end of a line, or a line of their
own. -/
def IsBlankRow (row : List Char) : Prop :=
  IsGap row ∧ '\n' ∉ row

instance (row : List Char) : Decidable (IsBlankRow row) :=
  decidable_of_iff (row.all isBlank = true ∧ '\n' ∉ row)
    ⟨fun h => ⟨isGap_of_all h.1, h.2⟩, fun h => ⟨List.all_eq_true.mpr h.1, h.2⟩⟩

theorem trimEnd_append_gap (cs : List Char) {gap : List Char} (h : IsGap gap) :
    trimEnd (cs ++ gap) = trimEnd cs := by
  induction cs with
  | nil => exact (trimEnd_eq_nil_iff gap).mpr (List.all_eq_true.mpr h)
  | cons c cs ih => rw [List.cons_append, trimEnd_cons, trimEnd_cons, ih]

/-- A piece with blanks behind it is the same line. -/
theorem line?_append_gap (piece : List Char) {gap : List Char} (h : IsGap gap) (number : Nat) :
    line? (expandTabs (piece ++ gap)) number = line? (expandTabs piece) number := by
  have hgap : IsGap (expandTabs gap) :=
    isGap_of_all ((all_isBlank_expandTabs gap).trans (List.all_eq_true.mpr h))
  rw [line?_eq, line?_eq, expandTabs_append, trimEnd_append_gap _ hgap]

/-- What is written behind a text without a line feed goes to its last piece. -/
theorem exists_last_piece (source : String) :
    ∃ ahead last, pieces source = ahead ++ [last]
      ∧ ∀ more : String, '\n' ∉ more.toList →
        pieces (source ++ more) = ahead ++ [last ++ more.toList] := by
  obtain ⟨ahead, last, hpieces⟩ : ∃ ahead last, pieces source = ahead ++ [last] :=
    ⟨_, _, (List.dropLast_append_getLast (pieces_ne_nil source)).symm⟩
  refine ⟨ahead, last, hpieces, ?_⟩
  intro more hmore
  have hsource : source.toList = ['\n'].intercalate (ahead ++ [last]) := by
    rw [← hpieces]
    exact (List.intercalate_splitOn '\n').symm
  have hjoined : ['\n'].intercalate (ahead ++ [last]) ++ more.toList
      = ['\n'].intercalate (ahead ++ [last ++ more.toList]) := by
    cases ahead with
    | nil => simp
    | cons first ahead =>
      rw [intercalate_append _ (List.cons_ne_nil _ _) (List.cons_ne_nil _ _),
        intercalate_append _ (List.cons_ne_nil _ _) (List.cons_ne_nil _ _)]
      simp
  have hfree : ∀ piece ∈ ahead ++ [last], '\n' ∉ piece := by
    intro piece hpiece
    exact newline_not_mem_piece (hpieces ▸ hpiece)
  unfold pieces
  rw [String.toList_append, hsource, hjoined]
  refine List.splitOn_intercalate '\n' ?_ (by simp)
  intro piece hpiece
  rcases List.mem_append.mp hpiece with hpiece | hpiece
  · exact hfree piece (List.mem_append_left _ hpiece)
  · rw [List.mem_singleton.mp hpiece]
    intro hmem
    rcases List.mem_append.mp hmem with hmem | hmem
    · exact hfree last (List.mem_append_right _ List.mem_cons_self) hmem
    · exact hmore hmem

theorem lines_append_gap (source : String) {gap : String} (h : IsBlankRow gap.toList) :
    lines (source ++ gap) = lines source := by
  obtain ⟨ahead, last, hpieces, hmore⟩ := exists_last_piece source
  have hlast : ∀ first, linesFrom first [last ++ gap.toList] = linesFrom first [last] := by
    intro first
    simp only [linesFrom, line?_append_gap last h.1]
  rw [lines_eq_linesFrom, lines_eq_linesFrom, hmore gap h.2, hpieces, linesFrom_append,
    linesFrom_append, hlast]

/-- A line ends in front of this text: it is over, or it goes on with a line
feed. -/
def EndsLine (after : String) : Prop :=
  after = "" ∨ ∃ rest, after = "\n" ++ rest

/-- **BLANKS AT THE END OF A LINE LEAVE EVERY LINE AS IT WAS.** -/
theorem lines_gap (before : String) {gap after : String} (hgap : IsBlankRow gap.toList)
    (hafter : EndsLine after) : lines (before ++ gap ++ after) = lines (before ++ after) := by
  rcases hafter with rfl | ⟨rest, rfl⟩
  · rw [String.append_empty, String.append_empty, lines_append_gap before hgap]
  · -- the lines behind the line feed are as far down as before
    have hcount : (before ++ gap).toList.count '\n' = before.toList.count '\n' := by
      rw [String.toList_append, List.count_append, List.count_eq_zero_of_not_mem hgap.2,
        Nat.add_zero]
    rw [← String.append_assoc, ← String.append_assoc, lines_joined, lines_joined, hcount,
      lines_append_gap before hgap]

/-! ## §3. A blank line. -/

/-- The source with a further line behind the first `place` ones. -/
def insertLine (place : Nat) (row source : String) : String :=
  ofRows ((pieces source).take place ++ row.toList :: (pieces source).drop place)

theorem pieces_insertLine (place : Nat) {row : String} (h : '\n' ∉ row.toList) (source : String) :
    pieces (insertLine place row source)
      = (pieces source).take place ++ row.toList :: (pieces source).drop place := by
  refine pieces_ofRows ?_ (by simp)
  intro piece hpiece
  rcases List.mem_append.mp hpiece with hpiece | hpiece
  · exact newline_not_mem_piece (List.mem_of_mem_take hpiece)
  · rcases List.mem_cons.mp hpiece with rfl | hpiece
    · exact h
    · exact newline_not_mem_piece (List.mem_of_mem_drop hpiece)

/-- The lines of pieces stand at the places of the pieces. -/
theorem number_of_mem_linesFrom :
    ∀ {pieces : List (List Char)} {first : Nat}, ∀ line ∈ linesFrom first pieces,
      first ≤ line.number ∧ line.number < first + pieces.length
  | piece :: pieces, first, line, hline => by
    rw [List.length_cons]
    rw [linesFrom, line?_eq] at hline
    rcases List.mem_append.mp hline with hline | hline
    · split at hline
      · cases hline
      · rw [List.mem_singleton.mp hline]
        show first ≤ first ∧ first < first + (pieces.length + 1)
        omega
    · have hplace := number_of_mem_linesFrom line hline
      omega

/-- **A BLANK LINE MOVES THE LINES BEHIND IT ONE FURTHER DOWN** and adds none. -/
theorem lines_inserted (place : Nat) {row : String} (h : IsBlankRow row.toList) (source : String) :
    ∃ ahead behind, lines source = ahead ++ behind
      ∧ lines (insertLine place row source) = ahead ++ behind.map (SourceLine.below 1)
      ∧ (∀ line ∈ ahead, line.number ≤ place) ∧ ∀ line ∈ behind, place < line.number := by
  let before := (pieces source).take place
  let after := (pieces source).drop place
  have hblank : ∀ number, line? (expandTabs row.toList) number = none := by
    intro number
    rw [line?_eq, if_pos]
    exact (trimEnd_eq_nil_iff _).mpr
      ((all_isBlank_expandTabs row.toList).trans (List.all_eq_true.mpr h.1))
  have hbelow := linesFrom_map id (SourceLine.below 1) 1
    (fun piece number => line?_below _ number _) after (1 + before.length)
  rw [List.map_id] at hbelow
  refine ⟨linesFrom 1 before, linesFrom (1 + before.length) after, ?_, ?_, ?_, ?_⟩
  · rw [lines_eq_linesFrom, ← linesFrom_append, List.take_append_drop]
  · rw [lines_eq_linesFrom, pieces_insertLine place h.2, linesFrom_append, linesFrom, hblank,
      ← hbelow]
    rfl
  · intro line hline
    have hnumber := (number_of_mem_linesFrom line hline).2
    have hlength : before.length ≤ place := List.length_take_le place (pieces source)
    omega
  · intro line hline
    have hnumber := number_of_mem_linesFrom line hline
    -- something is behind the blank line, so as many pieces as asked for are ahead
    have hahead : before.length = min place (pieces source).length := List.length_take
    have hafter : after.length = (pieces source).length - place := List.length_drop
    omega

end Source

/-! ## §4. What is made of the lines. -/

namespace Document

open Source

theorem parse_congr {source other : String} (h : lines source = lines other) :
    parse source = parse other := by
  unfold parse
  rw [h]

theorem number_of_readLines {lines : List SourceLine} {error : ParseError}
    (h : readLines lines = .error error) : ∃ line ∈ lines, error.number = line.number := by
  obtain ⟨before, line, after, items, rfl, -, hbad⟩ := readLines_eq_error_iff.mp h
  exact ⟨line, by simp, (ElementLine.error_of_read hbad).1⟩

/-- A blank line changes no more than the number of the error behind it. -/
theorem parse_insertLine (place : Nat) {row : String} (h : IsBlankRow row.toList)
    (source : String) :
    parse (insertLine place row source)
      = (parse source).mapError fun error =>
          if place < error.number then { error with number := error.number + 1 } else error := by
  obtain ⟨ahead, behind, hlines, hinserted, hahead, hbehind⟩ := lines_inserted place h source
  unfold parse
  rw [hlines, hinserted, readLines_append, readLines_append, readLines_below]
  cases hread : readLines ahead with
  | error error =>
    obtain ⟨line, hline, hnumber⟩ := number_of_readLines hread
    have hplace : ¬ place < error.number := by
      have := hahead line hline
      omega
    simp [Except.bind, Except.map, Except.mapError, hplace]
  | ok items =>
    cases hmore : readLines behind with
    | error error =>
      obtain ⟨line, hline, hnumber⟩ := number_of_readLines hmore
      have hplace : place < error.number := by
        have := hbehind line hline
        omega
      simp [Except.bind, Except.map, Except.mapError, hplace, ParseError.below]
    | ok others => rfl

/-- **WHITE SPACE THAT DOES NOT COUNT.**  A tab and two spaces are the same
anywhere in a source.  At the end of a line any blanks may stand in place of any
others.  A blank line between two lines, in front of the first or behind the last,
leaves a forest as it is, and of an error changes the number only: by one, exactly
if it stands before the bad line. -/
theorem parse_respaced :
    (∀ before after : String,
        parse (before ++ "\t" ++ after) = parse (before ++ "  " ++ after))
      ∧ (∀ before gap gap' after : String, IsBlankRow gap.toList → IsBlankRow gap'.toList →
          EndsLine after → parse (before ++ gap ++ after) = parse (before ++ gap' ++ after))
      ∧ ∀ (place : Nat) (row source : String), IsBlankRow row.toList →
          parse (insertLine place row source)
            = (parse source).mapError fun error =>
                if place < error.number then { error with number := error.number + 1 }
                else error := by
  refine ⟨?_, ?_, ?_⟩
  · intro before after
    exact parse_congr (lines_tab before after)
  · intro before gap gap' after hgap hgap' hafter
    exact parse_congr ((lines_gap before hgap hafter).trans (lines_gap before hgap' hafter).symm)
  · intro place row source hrow
    exact parse_insertLine place hrow source

/-- A tab for an indent, a carriage return and an ideographic space at the ends of
lines, and blank lines before and behind a bad one. -/
theorem parse_respaced_with_bad_line :
    let source := "<a>\n\t<b>\n<c"
    let error : ParseError := ⟨.shape, 3, "<c"⟩
    (IsBlankRow "\r".toList ∧ IsBlankRow "\u3000 ".toList ∧ EndsLine "\n\t<b>\n<c")
      ∧ parse source = .error error
      ∧ parse "<a>\n  <b>\n<c" = .error error
      ∧ parse "<a>\r\n\t<b>\n<c" = parse "<a>\u3000 \n\t<b>\n<c"
      ∧ parse (insertLine 2 "\u3000 " source) = .error ⟨.shape, 4, "<c"⟩
      ∧ parse (insertLine 3 "\r" source) = .error error := by
  intro source error
  obtain ⟨htab, hgap, hline⟩ := parse_respaced
  have hsource : parse source = .error error := by decide +kernel
  have hreturn : IsBlankRow "\r".toList := by decide +kernel
  have hspace : IsBlankRow "\u3000 ".toList := by decide +kernel
  have hends : EndsLine "\n\t<b>\n<c" := Or.inr ⟨"\t<b>\n<c", by decide +kernel⟩
  refine ⟨⟨hreturn, hspace, hends⟩, hsource, ?_, ?_, ?_, ?_⟩
  · exact (htab "<a>\n" "<b>\n<c").symm.trans hsource
  · exact hgap "<a>" "\r" "\u3000 " "\n\t<b>\n<c" hreturn hspace hends
  · rw [hline 2 "\u3000 " source hspace, hsource]
    rfl
  · rw [hline 3 "\r" source hreturn, hsource]
    rfl

end Document

end MarkupShorthand
