/-
  MarkupShorthand.Proofs.Dialect.StyleText
  ────────────────────────────────────────
  **A STYLE ATTRIBUTE OF MARKUP IS A STYLE BLOCK AGAIN, WITH THE SAME
  DECLARATIONS.**

  Markup writes every declaration with a space behind its colon and a `;` behind
  its value, and a space in front of all but the first.  The reader of style blocks
  trims these spaces, so what the attribute says between its outer quotes is read
  as it was written, quotes and colons in the values included.
-/
import MarkupShorthand.Proofs.Dialect.Legible
import MarkupShorthand.Proofs.StyleBlock

namespace MarkupShorthand.Dialect

open Text

/-- **STEP**: a declaration of markup that is written in front of others is read in
front of them. -/
theorem declarations_markupChars {entry : String × String} (h : IsBlockDeclaration entry)
    {gap : List Char} (hgap : IsGap gap) (rest : List Char) :
    ((gap ++ markupChars entry ++ rest).splitOn ';').filterMap declaration?
      = entry :: (rest.splitOn ';').filterMap declaration? := by
  have hspace : IsGap [' '] := isGap_of_all (by decide)
  have hwritten := Styles.declarations_written h hgap hspace rest
  simpa [markupChars] using hwritten

/-- **RUN**: declarations with a space in front of each are all read. -/
theorem declarations_behind :
    ∀ {entries : List (String × String)}, (∀ entry ∈ entries, IsBlockDeclaration entry) →
      ((entries.flatMap fun entry => [' '] ++ markupChars entry).splitOn ';').filterMap
        declaration? = entries
  | [], _ => by decide
  | entry :: entries, h => by
    have hrest := declarations_behind fun other hother => h other (List.mem_cons_of_mem _ hother)
    rw [List.flatMap_cons, declarations_markupChars (h entry List.mem_cons_self)
      (isGap_of_all (by decide)), hrest]

/-- **WHAT MARKUP WRITES IS A STYLE BLOCK** that holds what was written. -/
theorem ofBlock_markupStyleText {styles : Styles}
    (h : ∀ entry ∈ styles.entries, IsBlockDeclaration entry) :
    Styles.ofBlock (markupStyleText styles) = styles := by
  have hdeclarations : Styles.declarations (markupStyleText styles) = styles.entries := by
    unfold Styles.declarations
    rw [toList_markupStyleText]
    cases hentries : styles.entries with
    | nil => decide
    | cons first others =>
      rw [hentries] at h
      -- only the first declaration has no space in front
      have hfirst := declarations_markupChars (h first List.mem_cons_self) isGap_nil
        (others.flatMap fun entry => [' '] ++ markupChars entry)
      rw [List.nil_append] at hfirst
      rw [List.map_cons, intercalate_cons, List.flatMap_map, hfirst,
        declarations_behind fun other hother => h other (List.mem_cons_of_mem first hother)]
  unfold Styles.ofBlock
  rw [hdeclarations, OrderedMap.ofPairs_entries]

/-- **STYLE ATTRIBUTES OF MARKUP ARE READ BACK.**  What stands between the quotes of
the attribute is a style block that says the same, with the properties in their
order, for any styles whose properties and values are trimmed, not empty and without
`;`, and whose properties have no colon.  The styles of any style block are so,
hence what is written for one is read and written in the same way again. -/
theorem markup_styles_read_back :
    (∀ styles : Styles, (∀ entry ∈ styles.entries, IsBlockDeclaration entry) →
        ∃ body, markup.styleAttribute styles = "style=\"" ++ body ++ "\""
          ∧ Styles.ofBlock body = styles)
      ∧ ∀ block : String,
          ∃ body, markup.styleAttribute (Styles.ofBlock block) = "style=\"" ++ body ++ "\""
            ∧ Styles.ofBlock body = Styles.ofBlock block
            ∧ markup.styleAttribute (Styles.ofBlock body) = "style=\"" ++ body ++ "\"" := by
  refine ⟨fun styles h => ⟨markupStyleText styles, rfl, ofBlock_markupStyleText h⟩, ?_⟩
  intro block
  have hsame : Styles.ofBlock (markupStyleText (Styles.ofBlock block)) = Styles.ofBlock block :=
    ofBlock_markupStyleText fun entry hentry => Styles.isBlockDeclaration_of_mem hentry
  refine ⟨markupStyleText (Styles.ofBlock block), rfl, hsame, ?_⟩
  rw [hsame]
  rfl

/-- Values with quotes, a colon and a line feed inside. -/
theorem markup_styles_read_back_with_quotes :
    let styles : Styles := .ofPairs [("content", "\"a: b\"\n\""), ("--x y", ":")]
    (∀ entry ∈ styles.entries, IsBlockDeclaration entry)
      ∧ ∃ body, "style=\"content: \"a: b\"\n\"; --x y: :;\"" = "style=\"" ++ body ++ "\""
        ∧ Styles.ofBlock body = styles := by
  intro styles
  have hstyles : ∀ entry ∈ styles.entries, IsBlockDeclaration entry := by
    intro entry hentry
    have hcases : entry = ("content", "\"a: b\"\n\"") ∨ entry = ("--x y", ":") := by
      simpa using OrderedMap.mem_entries_ofPairs hentry
    rcases hcases with rfl | rfl
    · exact ⟨⟨⟨by decide, by decide, by decide⟩, by decide, ⟨by decide, by decide, by decide⟩⟩,
        by decide, by decide⟩
    · exact ⟨⟨⟨by decide, by decide, by decide⟩, by decide, ⟨by decide, by decide, by decide⟩⟩,
        by decide, by decide⟩
  obtain ⟨body, hbody, hread⟩ := markup_styles_read_back.1 styles hstyles
  have hwritten : markup.styleAttribute styles
      = "style=\"content: \"a: b\"\n\"; --x y: :;\"" := by decide
  exact ⟨hstyles, body, hwritten.symm.trans hbody, hread⟩

end MarkupShorthand.Dialect
