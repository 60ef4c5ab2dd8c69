/-
  MarkupShorthand.Text.Blank
  ──────────────────────────
  **BLANKS ARE THE CHARACTERS WITH THE WHITE_SPACE PROPERTY, ALL TWENTY-FIVE
  OF THEM.**

  Every place where the shorthand speaks of space — the indent of a line, the
  gaps between its parts, the ends of a line, a style declaration or a class
  list — means this one set and not the ASCII blanks.  The cuts below work on
  `List Char`, so that each is a `takeWhile`, a `dropWhile` or a right fold.
-/

namespace MarkupShorthand.Text

/-! ## §1. The set. -/

/-- A character with the property White_Space: tab to carriage return, space,
next line, no-break space, the ogham space, the sixteen-odd typographic spaces,
the line and paragraph separators and the wide ones. -/
def isBlank (c : Char) : Bool :=
  let n := c.toNat
  (9 ≤ n && n ≤ 13) || n == 0x20 || n == 0x85 || n == 0xA0 || n == 0x1680
    || (0x2000 ≤ n && n ≤ 0x200A) || n == 0x2028 || n == 0x2029 || n == 0x202F
    || n == 0x205F || n == 0x3000

/-! ## §2. Cutting blanks away. -/

/-- The text without its leading blanks. -/
def trimStart (cs : List Char) : List Char :=
  cs.dropWhile isBlank

/-- The text without its trailing blanks: from the right, blanks vanish until a
character that is kept. -/
def trimEnd (cs : List Char) : List Char :=
  cs.foldr (fun c kept => if kept.isEmpty && isBlank c then [] else c :: kept) []

/-- The text without blanks at either end. -/
def trim (cs : List Char) : List Char :=
  trimEnd (trimStart cs)

/-- The maximal runs of characters that are not blank, in order. -/
def words (cs : List Char) : List (List Char) :=
  (cs.splitOnP isBlank).filter (fun word => !word.isEmpty)

/-! ## §3. Small facts. -/

@[simp] theorem trimEnd_nil : trimEnd [] = [] := rfl

theorem trimEnd_cons (c : Char) (cs : List Char) :
    trimEnd (c :: cs) =
      if (trimEnd cs).isEmpty && isBlank c then [] else c :: trimEnd cs := rfl

end MarkupShorthand.Text
