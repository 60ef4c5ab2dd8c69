/-
  MarkupShorthand.Dialect.Component
  ─────────────────────────────────
  **COMPONENT TEMPLATES: `className`, STYLES AS AN OBJECT LITERAL, EMPTY
  ELEMENTS CLOSED AT ONCE.**

  Properties and values of a style object are written as JSON strings, so the
  object between the outer braces is JSON.
-/
import MarkupShorthand.Json.Quoted
import MarkupShorthand.Layout

namespace MarkupShorthand.Dialect

/-- One declaration as it stands in a style object. -/
def componentDeclaration (entry : String × String) : String :=
  Json.quoted entry.1 ++ ": " ++ Json.quoted entry.2

/-- The declarations with commas between them. -/
def componentStyleText (styles : Styles) : String :=
  ", ".intercalate (styles.entries.map componentDeclaration)

/-- A component template. -/
def component : Dialect where
  styleAttribute styles := "style=\x7b\x7b " ++ componentStyleText styles ++ " \x7d\x7d"
  attributeName name := if name = Attributes.classKey then "className" else name
  closesEmpty := true

end MarkupShorthand.Dialect
