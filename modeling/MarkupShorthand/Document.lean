/-
  MarkupShorthand.Document
  ────────────────────────
  **A DOCUMENT IS READ LINE BY LINE; THE FIRST BAD LINE ENDS IT.**

  Source text, lines, nodes with depths, forest.  `parse` is the forest or the
  first bad line; `report` is what is logged on the way: the number of lines,
  then either the rejected line or one record for every attachment and the
  number of roots.
-/
import MarkupShorthand.Forest
import MarkupShorthand.Line.ElementLine
import MarkupShorthand.Log

namespace MarkupShorthand.Document

/-! ## §1. Parsing. -/

/-- The nodes of the lines with their depths, in order, unless a line is bad. -/
def readLines : List SourceLine → Except ParseError (List (Node × Nat))
  | [] => .ok []
  | line :: rest =>
    match ElementLine.read line with
    | .error error => .error error
    | .ok element =>
      match readLines rest with
      | .error error => .error error
      | .ok items => .ok ((element.node, element.depth) :: items)

/-- The forest of a source text. -/
def parse (source : String) : Except ParseError (List Node) :=
  (readLines (Source.lines source)).map Forest.nest

/-! ## §2. What is reported. -/

/-- The part of the program that reports on documents. -/
def documentTarget : String := "shortmark::shortmark::pipeline"

/-- The part of the program that reports on nesting. -/
def nestingTarget : String := "shortmark::shortmark::building::tree_builder"

/-- The records made while a source text is read. -/
def report (source : String) : List LogRecord :=
  let lines := Source.lines source
  let debug (message : String) : LogRecord := ⟨.debug, documentTarget, message⟩
  debug ("normalized source into " ++ toString lines.length ++ " non-blank lines") ::
    match readLines lines with
    | .error error =>
      [debug ("line " ++ toString error.number ++ " rejected: " ++ error.message)]
    | .ok items =>
      (Forest.attachments items).map
          (fun attachment => ⟨.trace, nestingTarget, attachment.message⟩) ++
        [debug ("built forest with " ++ toString (Forest.nest items).length ++ " roots")]

/-- Parsing together with its records. -/
def parseLogged (source : String) : Logged (Except ParseError (List Node)) :=
  ⟨parse source, report source⟩

end MarkupShorthand.Document
