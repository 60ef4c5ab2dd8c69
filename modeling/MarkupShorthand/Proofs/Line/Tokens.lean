/-
  MarkupShorthand.Proofs.Line.Tokens
  ──────────────────────────────────
  **THE SCANS OF THE KEPT RUNS FIND THE TOKENS THAT THE GRAMMAR PUT THERE, AND
  NO OTHERS.**

  The reader keeps the marks and the brackets of a line as runs of characters
  and scans each run again for its tokens.  The scans pass over what is no
  token; in a run of the grammar there is nothing to pass over but the blanks
  in front of a bracket.

      scanMarks_marksChars         the marks of the run
      scanBrackets_bracketsChars   the contents of the bracketed tokens
      pair?_eq_some_iff            when a content is a pair, and which
-/
import MarkupShorthand.Line.ElementLine
import MarkupShorthand.Proofs.Line.Cuts

namespace MarkupShorthand

open Text

/-! ## §1. Marks. -/

/-- The mark that a part of the grammar stands for. -/
def MarkPart.mark (part : MarkPart) : Mark :=
  Mark.ofSigil part.sigil part.name

theorem scanMarks_cons (part : MarkPart) {rest : List Char} (h : Stops isNameChar rest) :
    scanMarks (part.sigil :: (part.name ++ rest)) = part.mark :: scanMarks rest := by
  obtain ⟨sigil, name, hsigil, hname⟩ := part
  rw [scanMarks]
  simp only [hsigil, if_true, takeWhile_append_stops hname.2 h,
    dropWhile_append_stops hname.2 h]
  cases name with
  | nil => exact absurd rfl hname.1
  | cons c name => rfl

/-- **THE SCAN OF A RUN OF MARKS FINDS EVERY MARK.** -/
theorem scanMarks_marksChars (marks : List MarkPart) :
    scanMarks (marksChars marks) = marks.map MarkPart.mark := by
  induction marks with
  | nil =>
    show scanMarks [] = []
    rw [scanMarks]
  | cons part marks ih =>
    -- the name of a mark does not run on into the next one
    have hstop : Stops isNameChar (marksChars marks) := by
      have := Shape.stops_marksChars marks (stops_nil isNameChar)
      rwa [List.append_nil] at this
    rw [Shape.marksChars_cons, scanMarks_cons part hstop, ih, List.map_cons]

/-! ## §2. Brackets. -/

theorem scanBrackets_gap {gap : List Char} (h : IsGap gap) (rest : List Char) :
    scanBrackets (gap ++ rest) = scanBrackets rest := by
  induction gap with
  | nil => rfl
  | cons c gap ih =>
    -- a blank opens no bracket, so the scan passes over it
    have hc : ¬ c = '[' := by
      intro e
      have hblank := h c List.mem_cons_self
      rw [e] at hblank
      exact absurd hblank (by decide)
    rw [List.cons_append, scanBrackets, if_neg (fun hcond => hc hcond.1)]
    exact ih fun d hd => h d (List.mem_cons_of_mem c hd)

theorem scanBrackets_token {content : List Char} (hne : content ≠ []) (hcontent : ']' ∉ content)
    (rest : List Char) :
    scanBrackets ('[' :: (content ++ ']' :: rest)) = content :: scanBrackets rest := by
  rw [scanBrackets, takeWhile_cut hcontent, dropWhile_cut hcontent,
    if_pos ⟨rfl, hne, List.cons_ne_nil _ _⟩]
  rfl

/-- **THE SCAN OF A RUN OF BRACKETS FINDS EVERY TOKEN.** -/
theorem scanBrackets_bracketsChars (brackets : List BracketPart) :
    scanBrackets (bracketsChars brackets) = brackets.map BracketPart.content := by
  induction brackets with
  | nil =>
    show scanBrackets [] = []
    rw [scanBrackets]
  | cons token brackets ih =>
    rw [Shape.bracketsChars_cons, scanBrackets_gap token.gap_blank,
      scanBrackets_token token.content_ne token.content_ok, ih, List.map_cons]

/-! ## §3. Pairs. -/

/-- **A CONTENT IS A PAIR WHEN SOMETHING STANDS ON BOTH SIDES OF ITS FIRST `=`.** -/
theorem pair?_eq_some_iff (content : List Char) (key value : String) :
    pair? content = some (key, value) ↔
      content = key.toList ++ '=' :: value.toList
        ∧ '=' ∉ key.toList ∧ key ≠ "" ∧ value ≠ "" := by
  constructor
  · intro h
    unfold pair? at h
    split at h
    · cases h
    · cases h
    · cases h
    · next equals rest hrest hdrop hkey =>
      -- what ended the key is the first `=`, and something stands on both sides
      have hequals : equals = '=' := dropWhile_bne_eq_cons hdrop
      subst hequals
      rw [Option.some.injEq, Prod.mk.injEq] at h
      obtain ⟨rfl, rfl⟩ := h
      simp only [String.toList_ofList]
      refine ⟨?_, not_mem_takeWhile_bne '=' content, ?_, ?_⟩
      · rw [← hdrop, List.takeWhile_append_dropWhile]
      · intro e
        exact hkey (String.ofList_eq_empty_iff.mp e)
      · intro e
        exact hrest (String.ofList_eq_empty_iff.mp e)
  · -- the key has no `=`, so the cut is where the pair was put together
    rintro ⟨rfl, hkey, hkeyNe, hvalueNe⟩
    unfold pair?
    rw [takeWhile_cut hkey, dropWhile_cut hkey]
    cases hk : key.toList with
    | nil => exact absurd (String.toList_eq_nil_iff.mp hk) hkeyNe
    | cons c cs =>
      cases hv : value.toList with
      | nil => exact absurd (String.toList_eq_nil_iff.mp hv) hvalueNe
      | cons d ds =>
        show some (String.ofList (c :: cs), String.ofList (d :: ds)) = _
        rw [← hk, ← hv, String.ofList_toList, String.ofList_toList]

end MarkupShorthand
