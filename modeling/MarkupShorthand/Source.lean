/-
  MarkupShorthand.Source
  ──────────────────────
  **A SOURCE TEXT IS ITS NON-BLANK LINES, EACH WITH ITS PLACE IN THE TEXT.**

  A tab counts as two spaces, a line ends at a line feed, and what is blank at
  its end is not part of it (a carriage return in particular).  Lines are
  numbered before the blank ones are dropped, so that a number always points
  into the text as it was given.
-/
import MarkupShorthand.Text.Blank

namespace MarkupShorthand

open Text

/-- A line of a source text. -/
structure SourceLine where
  /-- Its place in the text, the first line being 1. -/
  number : Nat
  /-- Its text. -/
  text : String
  deriving DecidableEq, Inhabited

namespace Source

/-- Each tab becomes two spaces. -/
def expandTabs (cs : List Char) : List Char :=
  cs.flatMap fun c => if c = '\t' then [' ', ' '] else [c]

/-- One piece of the text as a line, unless it is blank. -/
def line? (piece : List Char) (number : Nat) : Option SourceLine :=
  match trimEnd piece with
  | [] => none
  | text => some ⟨number, .ofList text⟩

/-- The non-blank lines of a text, in order. -/
def lines (source : String) : List SourceLine :=
  (((expandTabs source.toList).splitOn '\n').zipIdx 1).filterMap fun (piece, number) =>
    line? piece number

end Source

end MarkupShorthand
