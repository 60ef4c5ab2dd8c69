/-
  MarkupShorthand.Proofs.Document.Joining
  ───────────────────────────────────────
  **TWO SOURCES WITH A LINE FEED BETWEEN THEM ARE READ ONE AFTER THE OTHER.**

      lines_joined          the lines of the first, and those of the second
                            further down
      readLines_joined      so the first error is that of the first source, or that
                            of the second further down
      parse_joined          and the forests stand side by side if no line of the
                            first source is shallower than the first line of the
                            second

  Without the condition a line of the second source can hang under a node of the
  first.  It is a condition on one line of the second source only: all that
  follow it are kept from the first source by it.
-/
import MarkupShorthand.Proofs.Document.Rendering
import MarkupShorthand.Proofs.Forest.Composition
import MarkupShorthand.Proofs.Line.Indent

namespace MarkupShorthand

/-! ## §1. Lines further down. -/

namespace Source

theorem line?_below (piece : List Char) (number further : Nat) :
    line? piece (number + further) = (line? piece number).map (SourceLine.below further) := by
  rw [line?_eq, line?_eq]
  split
  · rfl
  · rfl

/-- **THE LINES OF BOTH SOURCES**: the second source begins behind all pieces of the
first. -/
theorem lines_joined (source more : String) :
    lines (source ++ "\n" ++ more)
      = lines source ++ (lines more).map (SourceLine.below (source.toList.count '\n' + 1)) := by
  have hmore := linesFrom_map id (SourceLine.below (pieces source).length) (pieces source).length
    (fun piece number => line?_below _ number _) (pieces more) 1
  rw [List.map_id] at hmore
  rw [lines_eq_linesFrom, pieces_append, linesFrom_append, hmore, length_pieces,
    ← lines_eq_linesFrom, ← lines_eq_linesFrom]

end Source

namespace Document

/-! ## §2. Reading both. -/

theorem readLines_below (further : Nat) (lines : List SourceLine) :
    readLines (lines.map (SourceLine.below further))
      = (readLines lines).mapError (ParseError.below further) := by
  have h := readLines_map (SourceLine.below further) id (ParseError.below further) ?_ lines
  · rw [h]
    cases readLines lines with
    | error error => rfl
    | ok items => simp [Except.map]
  · intro line
    rw [ElementLine.readItem_below]
    cases ElementLine.readItem line with
    | error error => rfl
    | ok item => rfl

theorem readLines_joined (source more : String) :
    readLines (Source.lines (source ++ "\n" ++ more))
      = (readLines (Source.lines source)).bind fun items =>
          ((readLines (Source.lines more)).mapError
            (ParseError.below (source.toList.count '\n' + 1))).map (items ++ ·) := by
  rw [Source.lines_joined, readLines_append, readLines_below]

/-! ## §3. The forests of both. -/

/-- No line of the source is shallower than the first line of the other. -/
def NoneShallower (source more : String) : Prop :=
  ∀ first, (Source.lines more).head? = some first →
    ∀ line ∈ Source.lines source, first.indent ≤ line.indent

theorem NoneShallower.depth_le {source more : String} (h : NoneShallower source more)
    {items others : List (Node × Nat)} (hitems : readLines (Source.lines source) = .ok items)
    (hothers : readLines (Source.lines more) = .ok others) :
    ∀ first, others.head? = some first → ∀ item ∈ items, first.2 ≤ item.2 := by
  intro first hfirst item hitem
  obtain ⟨line, hline, element, hread, rfl⟩ := mem_of_readLines hitems item hitem
  -- the first item of the other source is that of its first line
  obtain ⟨elements, hreads, rfl⟩ := readLines_eq_ok_iff.mp hothers
  cases hlines : Source.lines more with
  | nil =>
    rw [hlines] at hreads
    cases hreads
    cases hfirst
  | cons firstLine lines =>
    rw [hlines] at hreads
    cases hreads with
    | cons hfirstRead _ =>
      rw [List.map_cons, List.head?_cons, Option.some.injEq] at hfirst
      rw [← hfirst]
      show ElementLine.depth _ ≤ ElementLine.depth _
      have hindents := h firstLine (by rw [hlines]; rfl) line hline
      rw [indent_of_read hfirstRead, indent_of_read hread] at hindents
      omega

/-- **JOINED SOURCES.**  If both sources have forests, and no line of the first is
shallower than the first line of the second, then the source with a line feed
between them has both forests side by side, and its document is that of the first,
a line feed and that of the second, where an empty forest has no part in it.
Whatever the indents, the first error is that of the first source; and if there is
none, it is that of the second, as many places further down as the first source
has pieces. -/
theorem parse_joined (source more : String) :
    (∀ forest others, NoneShallower source more →
        parse source = .ok forest → parse more = .ok others →
        parse (source ++ "\n" ++ more) = .ok (forest ++ others)
          ∧ ∀ format : OutputFormat, ∃ output output',
              format.render source = .ok output ∧ format.render more = .ok output'
                ∧ format.render (source ++ "\n" ++ more)
                  = .ok (if forest.isEmpty then output' else if others.isEmpty then output
                    else output ++ "\n" ++ output'))
      ∧ (∀ error, parse source = .error error →
          parse (source ++ "\n" ++ more) = .error error)
      ∧ ∀ forest error, parse source = .ok forest → parse more = .error error →
          parse (source ++ "\n" ++ more)
            = .error { error with number := error.number + (source.toList.count '\n' + 1) } := by
  refine ⟨?_, ?_, ?_⟩
  · intro forest others hnone hforest hothers
    have hjoined : parse (source ++ "\n" ++ more) = .ok (forest ++ others) := by
      obtain ⟨items, hitems, rfl⟩ := parse_eq_ok_iff.mp hforest
      obtain ⟨otherItems, hotherItems, rfl⟩ := parse_eq_ok_iff.mp hothers
      refine parse_eq_ok_iff.mpr ⟨items ++ otherItems, ?_, ?_⟩
      · rw [readLines_joined, hitems, hotherItems]
        rfl
      · exact Forest.nest_append (hnone.depth_le hitems hotherItems)
    refine ⟨hjoined, ?_⟩
    intro format
    refine ⟨format.renderForest forest, format.renderForest others,
      OutputFormat.render_eq_ok_iff.mpr ⟨forest, hforest, rfl⟩,
      OutputFormat.render_eq_ok_iff.mpr ⟨others, hothers, rfl⟩, ?_⟩
    rw [← OutputFormat.renderForest_append]
    exact OutputFormat.render_eq_ok_iff.mpr ⟨forest ++ others, hjoined, rfl⟩
  · intro error herror
    rw [parse_eq_error_iff] at herror ⊢
    rw [readLines_joined, herror]
    rfl
  · intro forest error hforest herror
    obtain ⟨items, hitems, -⟩ := parse_eq_ok_iff.mp hforest
    rw [parse_eq_error_iff] at herror ⊢
    rw [readLines_joined, hitems, herror]
    rfl

/-- The second source begins indented and has a shallower line later; joined to
another, it fails in its second line. -/
theorem parse_joined_indented :
    let source := "  <a>\n    <b>"
    let more := "\n  <c>\n<d>"
    let bad := "<c>\n<d"
    let forest : List Node := [{ tag := "a", children := [{ tag := "b" }] }]
    let others : List Node := [{ tag := "c" }, { tag := "d" }]
    NoneShallower source more
      ∧ parse (source ++ "\n" ++ more) = .ok (forest ++ others)
      ∧ parse (source ++ "\n" ++ bad) = .error ⟨.shape, 4, "<d"⟩
      ∧ parse (bad ++ "\n" ++ source) = .error ⟨.shape, 2, "<d"⟩ := by
  intro source more bad forest others
  have hforest : parse source = .ok forest := by decide +kernel
  have hothers : parse more = .ok others := by decide +kernel
  have hbad : parse bad = .error ⟨.shape, 2, "<d"⟩ := by decide +kernel
  have hfirst : (Source.lines more).head?.map SourceLine.indent = some 2 := by decide +kernel
  have hindents : (Source.lines source).map SourceLine.indent = [2, 4] := by decide +kernel
  have hnone : NoneShallower source more := by
    intro first hhead line hline
    have hmem : line.indent ∈ [2, 4] := hindents ▸ List.mem_map_of_mem hline
    rw [hhead] at hfirst
    rw [Option.some.inj hfirst]
    exact (show ∀ indent ∈ [2, 4], 2 ≤ indent by decide) line.indent hmem
  have hfeeds : source.toList.count '\n' = 1 := by decide +kernel
  have hbehind := (parse_joined source bad).2.2 forest _ hforest hbad
  rw [hfeeds] at hbehind
  exact ⟨hnone, ((parse_joined source more).1 forest others hnone hforest hothers).1, hbehind,
    (parse_joined bad source).2.1 _ hbad⟩

end Document

end MarkupShorthand
