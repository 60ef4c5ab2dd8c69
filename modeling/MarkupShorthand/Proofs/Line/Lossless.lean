/-
  MarkupShorthand.Proofs.Line.Lossless
  ────────────────────────────────────
  **A RUN THAT IS SCANNED AGAIN GIVES BACK THE TOKENS THAT MADE IT, AND THE TOKENS
  GIVE BACK THE RUN.**

  A line is matched as a whole, and its runs of marks and of brackets are cut into
  tokens later, each by a scan that knows nothing of the others.  The scans and
  the grammar agree on where a token begins and ends:

      flatMap_chars_marks    the marks, written out, are the run of marks
      pair?_eq               the pair in a content, by the place of its first `=`
      tokens_of_read         both runs of a line that is read
-/
import MarkupShorthand.Proofs.Line.Expressible

namespace MarkupShorthand

open Text

/-! ## §1. Marks as they are written. -/

namespace Mark

/-- The name in a mark. -/
def name : Mark → String
  | .id name => name
  | .className name => name

/-- A mark as it stands in a line: its sigil and its name. -/
def chars : Mark → List Char
  | .id name => '#' :: name.toList
  | .className name => '.' :: name.toList

end Mark

theorem MarkPart.chars_mark (part : MarkPart) : part.mark.chars = part.sigil :: part.name := by
  obtain ⟨sigil, name, hsigil, -⟩ := part
  -- there are two sigils, one for each kind of mark
  rcases (isSigil_iff sigil).mp hsigil with rfl | rfl
  · show '#' :: (String.ofList name).toList = '#' :: name
    rw [String.toList_ofList]
  · show '.' :: (String.ofList name).toList = '.' :: name
    rw [String.toList_ofList]

theorem MarkPart.name_mark (part : MarkPart) : part.mark.name.toList = part.name := by
  obtain ⟨sigil, name, hsigil, -⟩ := part
  rcases (isSigil_iff sigil).mp hsigil with rfl | rfl
  · exact String.toList_ofList
  · exact String.toList_ofList

/-- **THE MARKS, WRITTEN OUT ONE AFTER THE OTHER, ARE THE RUN.** -/
theorem flatMap_chars_marks (marks : List MarkPart) :
    (marks.map MarkPart.mark).flatMap Mark.chars = marksChars marks := by
  induction marks with
  | nil => rfl
  | cons part marks ih =>
    rw [List.map_cons, List.flatMap_cons, ih, part.chars_mark, Shape.marksChars_cons]
    rfl

/-! ## §2. Pairs by the place of the first `=`. -/

/-- The first `=` of a content stands neither at its beginning nor at its end. -/
def HasInnerEquals (content : List Char) : Prop :=
  0 < content.idxOf '=' ∧ content.idxOf '=' + 1 < content.length

instance : DecidablePred HasInnerEquals := fun content =>
  inferInstanceAs (Decidable (0 < content.idxOf '=' ∧ content.idxOf '=' + 1 < content.length))

/-- What stands before the first `=`, and what stands behind it. -/
def aroundEquals (content : List Char) : String × String :=
  (.ofList (content.take (content.idxOf '=')), .ofList (content.drop (content.idxOf '=' + 1)))

theorem idxOf_key {key : List Char} (h : '=' ∉ key) (value : List Char) :
    (key ++ '=' :: value).idxOf '=' = key.length := by
  rw [List.idxOf_append_of_notMem h, List.idxOf_cons_self, Nat.add_zero]

theorem hasInnerEquals_iff {key : List Char} (h : '=' ∉ key) (value : List Char) :
    HasInnerEquals (key ++ '=' :: value) ↔ key ≠ [] ∧ value ≠ [] := by
  unfold HasInnerEquals
  rw [idxOf_key h, List.length_append, List.length_cons, ← List.length_pos_iff,
    ← List.length_pos_iff]
  omega

theorem aroundEquals_append {key : List Char} (h : '=' ∉ key) (value : List Char) :
    aroundEquals (key ++ '=' :: value) = (.ofList key, .ofList value) := by
  have hbehind : (key ++ '=' :: value).drop (key.length + 1) = value := by
    rw [List.drop_append, List.drop_of_length_le (Nat.le_succ _), Nat.add_sub_cancel_left]
    rfl
  unfold aroundEquals
  rw [idxOf_key h, List.take_left, hbehind]

/-- **A CONTENT IS A PAIR WHEN ITS FIRST `=` STANDS INSIDE OF IT.** -/
theorem pair?_eq (content : List Char) :
    pair? content = if HasInnerEquals content then some (aroundEquals content) else none := by
  by_cases hmem : '=' ∈ content
  · obtain ⟨key, value, rfl, hkey⟩ := List.eq_append_cons_of_mem hmem
    unfold pair?
    rw [takeWhile_cut hkey, dropWhile_cut hkey, aroundEquals_append hkey]
    cases key with
    | nil => rw [if_neg fun h => ((hasInnerEquals_iff hkey value).mp h).1 rfl]
    | cons c key =>
      cases value with
      | nil => rw [if_neg fun h => ((hasInnerEquals_iff hkey []).mp h).2 rfl]
      | cons d value =>
        rw [if_pos ((hasInnerEquals_iff hkey _).mpr ⟨List.cons_ne_nil _ _, List.cons_ne_nil _ _⟩)]
  · -- without an `=`, nothing is behind the key
    have hnone : content.dropWhile (· != '=') = [] :=
      List.dropWhile_eq_nil_iff.mpr (forall_bne_of_not_mem hmem)
    have hplace : ¬ HasInnerEquals content := by
      rintro ⟨-, hend⟩
      exact hmem (List.idxOf_lt_length_iff.mp (by omega))
    unfold pair?
    rw [hnone, if_neg hplace]
    cases content.takeWhile (· != '=') <;> rfl

theorem filterMap_pair?_eq (contents : List (List Char)) :
    contents.filterMap pair? = (contents.filter HasInnerEquals).map aroundEquals := by
  induction contents with
  | nil => rfl
  | cons content contents ih =>
    rw [List.filterMap_cons, pair?_eq]
    by_cases h : HasInnerEquals content
    · rw [if_pos h, List.filter_cons, if_pos (decide_eq_true h), List.map_cons, ih]
    · rw [if_neg h, List.filter_cons, if_neg (mt of_decide_eq_true h), ih]

/-! ## §3. The runs of a line. -/

/-- **THE TOKENS OF A LINE THAT IS READ ARE THOSE OF ITS GRAMMAR.**  The line has
one way to be written in parts.  The marks that are scanned are the marks of these
parts: written out they are the run of marks, and none is without a name.  The
contents that are scanned are those of the bracketed parts, which written out with
their blanks are the run of brackets.  A content is a pair exactly if its first `=`
is neither its first nor its last character, and the pair is what stands before
and behind that `=`. -/
theorem tokens_of_read {line : SourceLine} {element : ElementLine}
    (h : ElementLine.read line = .ok element) :
    ∃ parts : LineParts, parts.chars = line.text.toList
      ∧ (∀ other : LineParts, other.chars = line.text.toList → other = parts)
      ∧ element.tokens = parts.marks.map MarkPart.mark
      ∧ element.tokens.flatMap Mark.chars = element.marks.toList
      ∧ (∀ mark ∈ element.tokens, IsName mark.name.toList)
      ∧ scanBrackets element.brackets.toList = parts.brackets.map BracketPart.content
      ∧ bracketsChars parts.brackets = element.brackets.toList
      ∧ element.pairs
        = ((scanBrackets element.brackets.toList).filter HasInnerEquals).map aroundEquals := by
  obtain ⟨number, text⟩ := line
  obtain ⟨parts, hparts, -, rfl⟩ := parts_of_read h
  have hmarks : (parts.element number).marks.toList = marksChars parts.marks :=
    String.toList_ofList
  have hbrackets : (parts.element number).brackets.toList = bracketsChars parts.brackets :=
    String.toList_ofList
  refine ⟨parts, hparts, fun other hother => ?_, parts.tokens_element number, ?_, ?_, ?_,
    hbrackets.symm, filterMap_pair?_eq _⟩
  · exact LineParts.chars_injective (hother.trans hparts.symm)
  · rw [parts.tokens_element, flatMap_chars_marks, hmarks]
  · intro mark hmark
    rw [parts.tokens_element] at hmark
    obtain ⟨part, -, rfl⟩ := List.mem_map.mp hmark
    rw [part.name_mark]
    exact part.name_ok
  · rw [hbrackets, scanBrackets_bracketsChars]

/-- A bracket inside a content, an `=` that is all of it, one at its beginning, one
at its end, and one behind another. -/
theorem tokens_of_read_with_odd_brackets :
    let line : SourceLine := ⟨7, "<a>#x.y [k=[v][=] [=v][k=]  [\"a\"=b=][w]"⟩
    let element : ElementLine :=
      { number := 7, indent := 0, tag := "a", word := none, marks := "#x.y",
        brackets := " [k=[v][=] [=v][k=]  [\"a\"=b=][w]", text := none, style := none }
    ElementLine.read line = .ok element
      ∧ element.tokens.flatMap Mark.chars = element.marks.toList
      ∧ element.pairs
        = ((scanBrackets element.brackets.toList).filter HasInnerEquals).map aroundEquals
      ∧ element.pairs = [("k", "[v"), ("\"a\"", "b=")] := by
  intro line element
  have hread : ElementLine.read line = .ok element := by decide +kernel
  obtain ⟨-, -, -, -, hjoined, -, -, -, hpairs⟩ := tokens_of_read hread
  exact ⟨hread, hjoined, hpairs, by decide +kernel⟩

end MarkupShorthand
