/-
  MarkupShorthand.StyleBlock
  ──────────────────────────
  **A STYLE BLOCK IS ITS WELL-FORMED DECLARATIONS; THE OTHER PIECES LEAVE NO
  TRACE.**

  The body of a block is cut at every `;`.  A piece is a declaration when
  something that is not blank stands on both sides of its first `:`; both sides
  are trimmed.  A property that is declared again keeps its first place and
  takes the last value.
-/
import MarkupShorthand.Node
import MarkupShorthand.Text.Blank

namespace MarkupShorthand

open Text

/-- The declaration in one piece of a style block: property and value. -/
def declaration? (piece : List Char) : Option (String × String) :=
  let trimmed := trim piece
  match trimmed.dropWhile (· != ':') with
  | [] => none
  | _ :: behind =>
    match trim (trimmed.takeWhile (· != ':')), trim behind with
    | [], _ => none
    | _, [] => none
    | property, value => some (.ofList property, .ofList value)

namespace Styles

/-- The declarations of a style block in order, repeated ones included. -/
def declarations (body : String) : List (String × String) :=
  (body.toList.splitOn ';').filterMap declaration?

/-- The declarations of a style block as a map. -/
def ofBlock (body : String) : Styles :=
  OrderedMap.ofPairs (declarations body)

end Styles

end MarkupShorthand
