/-
  MarkupShorthand.Dialect.Markup
  ──────────────────────────────
  **MARKUP: NAMES AS THEY ARE, STYLES IN ONE ATTRIBUTE, CLOSING TAGS
  THROUGHOUT.**
-/
import MarkupShorthand.Layout

namespace MarkupShorthand.Dialect

/-- One declaration as it stands in a style attribute. -/
def markupDeclaration (entry : String × String) : String :=
  entry.1 ++ ": " ++ entry.2 ++ ";"

/-- The declarations with their terminators, a space between them. -/
def markupStyleText (styles : Styles) : String :=
  " ".intercalate (styles.entries.map markupDeclaration)

/-- Markup text with explicit closing tags. -/
def markup : Dialect where
  styleAttribute styles := "style=\"" ++ markupStyleText styles ++ "\""

end MarkupShorthand.Dialect
