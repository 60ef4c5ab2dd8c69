/-
  MarkupShorthand.Proofs.Document.Wrapping
  ────────────────────────────────────────
  **A SOURCE THAT IS MOVED INTO AN ELEMENT IS RENDERED AS IT WAS, INSIDE THE TAGS
  OF THE ELEMENT.**

      lines_wrapped    the line of the tag, and below it the lines of the source,
                       each a place further down and a level further in
      parse_wrapped    so the first error is that of the source, moved likewise, or
                       the forest is inside the node of the tag
      render_wrapped   and its document is written between the tags

  Wrapping puts two spaces in front of every piece of a text.  For a source these
  are a level more for each line and nothing for a blank piece; for a document they
  are a level more for each row.  A source may begin indented: the tag is shallower
  than all of it after the move.
-/
import MarkupShorthand.Proofs.Document.Rendering
import MarkupShorthand.Proofs.Forest.Composition

namespace MarkupShorthand

open Text

/-! ## §1. Two spaces in front of every piece. -/

/-- The line inside an element: a place further down and a level further in. -/
def SourceLine.inside (line : SourceLine) : SourceLine :=
  line.indented.below 1

/-- The error of a line inside an element. -/
def ParseError.inside (error : ParseError) : ParseError :=
  error.indented.below 1

namespace Source

/-- Every piece of the text with two spaces in front. -/
def indented (text : String) : String :=
  ofRows ((pieces text).map (' ' :: ' ' :: ·))

/-- The text inside an element: the line of its tag, and below it the text with two
spaces in front of every piece. -/
def wrapped (tag text : String) : String :=
  "<" ++ tag ++ ">\n" ++ indented text

theorem pieces_indented (text : String) :
    pieces (indented text) = (pieces text).map (' ' :: ' ' :: ·) := by
  refine pieces_ofRows ?_ (by simp [pieces_ne_nil])
  intro row hrow
  obtain ⟨piece, hpiece, rfl⟩ := List.mem_map.mp hrow
  simp [newline_not_mem_piece hpiece]

theorem trimEnd_indented (cs : List Char) :
    trimEnd (' ' :: ' ' :: cs) = if trimEnd cs = [] then [] else ' ' :: ' ' :: trimEnd cs := by
  have hspace : isBlank ' ' = true := by decide
  rw [trimEnd_cons, trimEnd_cons, hspace]
  cases trimEnd cs with
  | nil => rfl
  | cons c kept => rfl

/-- Behind two spaces a piece is the line it was, a level further in; if it is blank
it is no line, as before. -/
theorem line?_indented (piece : List Char) (number : Nat) :
    line? (expandTabs (' ' :: ' ' :: piece)) (number + 1)
      = (line? (expandTabs piece) number).map SourceLine.inside := by
  have hexpand : expandTabs (' ' :: ' ' :: piece) = ' ' :: ' ' :: expandTabs piece :=
    expandTabs_append [' ', ' '] piece
  rw [hexpand, line?_eq, line?_eq, trimEnd_indented]
  by_cases hblank : trimEnd (expandTabs piece) = []
  · simp [hblank]
  · have htext : String.ofList (' ' :: ' ' :: trimEnd (expandTabs piece))
        = "  " ++ .ofList (trimEnd (expandTabs piece)) := by
      rw [← String.toList_inj]
      simp
    rw [if_neg hblank, if_neg hblank, if_neg (List.cons_ne_nil _ _), htext]
    rfl

/-! ## §2. The lines inside an element. -/

theorem pieces_wrapped {tag : String} (htag : '\n' ∉ tag.toList) (text : String) :
    pieces (wrapped tag text)
      = ('<' :: (tag.toList ++ ['>'])) :: (pieces text).map (' ' :: ' ' :: ·) := by
  have hrow : ∀ row ∈ ['<' :: (tag.toList ++ ['>'])], '\n' ∉ row := by
    simp [htag]
  have hfirst : "<" ++ tag ++ ">" = ofRows ['<' :: (tag.toList ++ ['>'])] := by
    rw [← String.toList_inj]
    simp [ofRows]
  have hjoined : wrapped tag text = "<" ++ tag ++ ">" ++ "\n" ++ indented text := by
    rw [← String.toList_inj]
    simp [wrapped]
  rw [hjoined, pieces_append, hfirst, pieces_ofRows hrow (List.cons_ne_nil _ _), pieces_indented]
  rfl

end Source

namespace Node

/-- A tag and nothing else can be expressed. -/
theorem expressible_tag {tag : String} (htag : IsTagName tag.toList) :
    IsExpressible { tag } where
  tag := htag
  attrs := fun _ hentry => nomatch hentry
  text := fun _ htext => nomatch htext
  styles := fun _ hstyles => nomatch hstyles

theorem chars_line_tag {tag : String} (htag : IsTagName tag.toList) :
    (line 0 { tag } (expressible_tag htag)).chars = '<' :: (tag.toList ++ ['>']) := rfl

end Node

open Source

/-- **THE LINES INSIDE AN ELEMENT.** -/
theorem Source.lines_wrapped {tag : String} (htag : IsTagName tag.toList) (source : String) :
    lines (wrapped tag source)
      = ⟨1, .ofList ('<' :: (tag.toList ++ ['>']))⟩ ::
        (lines source).map SourceLine.inside := by
  have hrow : ∀ row ∈ ['<' :: (tag.toList ++ ['>'])], IsRow row := by
    intro row hrow
    rw [List.mem_singleton.mp hrow, ← Node.chars_line_tag htag]
    exact isRow_line 0 { tag } (Node.expressible_tag htag)
  have hrest := linesFrom_map (' ' :: ' ' :: ·) SourceLine.inside 1 line?_indented
    (pieces source) 1
  rw [lines_eq_linesFrom, pieces_wrapped (htag.isName.free.not_mem (by decide)),
    ← List.singleton_append, linesFrom_append, linesFrom_rows 1 hrow, List.length_singleton, hrest,
    ← lines_eq_linesFrom]
  rfl

namespace Document

/-! ## §3. The forest inside an element. -/

theorem readItem_tag {tag : String} (htag : IsTagName tag.toList) (number : Nat) :
    ElementLine.readItem ⟨number, .ofList ('<' :: (tag.toList ++ ['>']))⟩ = .ok ({ tag }, 0) := by
  have hline := Node.expressible_tag htag
  have hitem : ((Node.line 0 { tag } hline).element number).item = ({ tag }, 0) :=
    Prod.ext (node_element_line 0 { tag } hline number) (depth_element_line 0 { tag } hline number)
  rw [ElementLine.readItem, ← Node.chars_line_tag htag, read_line 0 { tag } hline number, ← hitem]
  rfl

theorem readItem_inside (line : SourceLine) :
    ElementLine.readItem line.inside
      = ((ElementLine.readItem line).map Forest.deeper).mapError ParseError.inside := by
  unfold SourceLine.inside
  rw [ElementLine.readItem_below, ElementLine.readItem_indented]
  cases ElementLine.readItem line with
  | error error => rfl
  | ok item => rfl

theorem readLines_wrapped {tag : String} (htag : IsTagName tag.toList) (source : String) :
    readLines (lines (wrapped tag source))
      = ((readLines (lines source)).map fun items =>
          (({ tag }, 0) :: items.map Forest.deeper : List (Node × Nat))).mapError
        ParseError.inside := by
  rw [lines_wrapped htag, readLines_cons, readItem_tag htag,
    readLines_map SourceLine.inside Forest.deeper ParseError.inside readItem_inside]
  cases readLines (lines source) with
  | error error => rfl
  | ok items => rfl

/-- **THE FOREST INSIDE AN ELEMENT**: the source in an element has one root, which
holds the forest of the source, or fails where the source does. -/
theorem parse_wrapped {tag : String} (htag : IsTagName tag.toList) (source : String) :
    parse (wrapped tag source)
      = ((parse source).map fun forest => ([{ tag, children := forest }] : List Node)).mapError
        ParseError.inside := by
  unfold parse
  rw [readLines_wrapped htag]
  cases readLines (lines source) with
  | error error => rfl
  | ok items =>
    -- whatever the indent of a line was, it is deeper than the tag now
    have hdeeper : ∀ item ∈ items.map Forest.deeper, 0 < item.2 := by
      intro item hitem
      obtain ⟨other, -, rfl⟩ := List.mem_map.mp hitem
      exact Nat.succ_pos other.2
    have hnest := Forest.nest_below { tag } hdeeper
    rw [Forest.nest_deeper] at hnest
    exact congrArg Except.ok hnest

/-! ## §4. The document inside the tags. -/

/-- Between the tags, every line of the document has two spaces more in front. -/
theorem renderForest_parent (format : OutputFormat) (tag : String) {source : String}
    {children : List Node} (h : parse source = .ok children) (hne : children ≠ []) :
    format.renderForest [{ tag, children }]
      = "<" ++ tag ++ ">\n" ++ indented (format.renderForest children)
        ++ "\n</" ++ tag ++ ">" := by
  have hrows : (Node.rowsAll format.dialect 0 children).map (' ' :: ' ' :: ·) ≠ [] := by
    simp [Node.rowsAll_ne_nil 0 hne]
  rw [← String.toList_inj, indented, format.pieces_renderForest h hne, ofRows,
    OutputFormat.renderForest, Node.toList_render, Node.rows_parent tag hne,
    intercalate_append _ (List.cons_ne_nil _ _) (List.append_ne_nil_of_left_ne_nil hrows _),
    intercalate_append _ hrows (List.cons_ne_nil _ _)]
  simp

theorem forest_ne_nil {source : String} {forest : List Node} (h : parse source = .ok forest)
    (hlines : lines source ≠ []) : forest ≠ [] := by
  obtain ⟨items, hitems, rfl⟩ := parse_eq_ok_iff.mp h
  obtain ⟨elements, hread, rfl⟩ := readLines_eq_ok_iff.mp hitems
  apply Forest.nest_ne_nil
  intro hnone
  rw [List.map_eq_nil_iff.mp hnone] at hread
  exact hlines (List.forall₂_nil_right_iff.mp hread)

/-- **THE DOCUMENT INSIDE THE TAGS.**  Where a source that is not blank has a document,
the source inside an element has that document, two spaces in front of each of its
lines, between the tags of the element.  Where the source has an error, the source
inside the element has the same fault, one line further down and two spaces further
in. -/
theorem render_wrapped (format : OutputFormat) {tag : String} (htag : IsTagName tag.toList)
    (source : String) :
    (∀ output, format.render source = .ok output → lines source ≠ [] →
        format.render ("<" ++ tag ++ ">\n" ++ indented source)
          = .ok ("<" ++ tag ++ ">\n" ++ indented output ++ "\n</" ++ tag ++ ">"))
      ∧ ∀ error, format.render source = .error error →
          format.render ("<" ++ tag ++ ">\n" ++ indented source)
            = .error ⟨error.fault, error.number + 1, "  " ++ error.line⟩ := by
  have hwrapped := parse_wrapped htag source
  unfold wrapped at hwrapped
  constructor
  · intro output houtput hlines
    obtain ⟨forest, hparse, rfl⟩ := OutputFormat.render_eq_ok_iff.mp houtput
    refine OutputFormat.render_eq_ok_iff.mpr ⟨[{ tag, children := forest }], ?_, ?_⟩
    · rw [hwrapped, hparse]
      rfl
    · exact renderForest_parent format tag hparse (forest_ne_nil hparse hlines)
  · intro error herror
    rw [OutputFormat.render_eq_error_iff] at herror ⊢
    rw [hwrapped, herror]
    rfl

/-- A template that begins indented and has a blank line, and a source that fails
behind a blank line. -/
theorem render_wrapped_in_main :
    let source := "  <a>=\"x\"\n\n<b>"
    let output := "<a>\n  x\n</a>\n<b />"
    let bad := "<a>\n\n\t <b> \n<c"
    OutputFormat.componentTemplate.render source = .ok output
      ∧ OutputFormat.componentTemplate.render "<main>\n    <a>=\"x\"\n  \n  <b>"
        = .ok "<main>\n  <a>\n    x\n  </a>\n  <b />\n</main>"
      ∧ OutputFormat.markup.render bad = .error ⟨.indent, 3, "   <b>"⟩
      ∧ OutputFormat.markup.render "<main>\n  <a>\n  \n  \t <b> \n  <c"
        = .error ⟨.indent, 4, "     <b>"⟩ := by
  intro source output bad
  have htag : IsTagName "main".toList := by decide
  have hsource : OutputFormat.componentTemplate.render source = .ok output := by decide +kernel
  have hbad : OutputFormat.markup.render bad = .error ⟨.indent, 3, "   <b>"⟩ := by decide +kernel
  have hlines : lines source ≠ [] := by decide +kernel
  -- the texts of the theorem, written out
  have hwrapped : "<" ++ "main" ++ ">\n" ++ indented source
      = "<main>\n    <a>=\"x\"\n  \n  <b>" := by decide +kernel
  have houtput : "<" ++ "main" ++ ">\n" ++ indented output ++ "\n</" ++ "main" ++ ">"
      = "<main>\n  <a>\n    x\n  </a>\n  <b />\n</main>" := by decide +kernel
  have hbadWrapped : "<" ++ "main" ++ ">\n" ++ indented bad
      = "<main>\n  <a>\n  \n  \t <b> \n  <c" := by decide +kernel
  have hinside := (render_wrapped .componentTemplate htag source).1 output hsource hlines
  have hbadInside := (render_wrapped .markup htag bad).2 _ hbad
  rw [hwrapped, houtput] at hinside
  rw [hbadWrapped] at hbadInside
  exact ⟨hsource, hinside, hbad, hbadInside⟩

end Document

end MarkupShorthand
