/-
  MarkupShorthand.ParseError
  ──────────────────────────
  **A DOCUMENT FAILS AT ITS FIRST BAD LINE, IN ONE OF TWO WAYS.**
-/

namespace MarkupShorthand

/-- What is wrong with a line. -/
inductive LineFault where
  /-- The line does not have the shape of an element line. -/
  | shape
  /-- The line has the shape, but its indent is not an even run of spaces. -/
  | indent
  deriving DecidableEq, Inhabited

/-- The first bad line of a document. -/
structure ParseError where
  /-- What is wrong with it. -/
  fault : LineFault
  /-- Its place in the document, the first line being 1. -/
  number : Nat
  /-- The line, its tabs expanded and its end trimmed. -/
  line : String
  deriving DecidableEq, Inhabited

/-- What a reader is told. -/
def ParseError.message (error : ParseError) : String :=
  let what :=
    match error.fault with
    | .shape => "Invalid syntax"
    | .indent => "Invalid indentation (use 2 spaces per level)"
  what ++ " on line " ++ toString error.number ++ ": \"" ++ error.line ++ "\""

end MarkupShorthand
