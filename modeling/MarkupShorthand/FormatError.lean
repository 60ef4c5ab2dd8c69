/-
  MarkupShorthand.FormatError
  ───────────────────────────
  **ASKING FOR A FORMAT CAN FAIL IN FOUR WAYS.**

  The format is not known, it does not go in the direction that is asked for,
  the source does not parse, or the forest cannot be written.
-/
import MarkupShorthand.ParseError

namespace MarkupShorthand

/-- The two directions of a format. -/
inductive Direction where
  /-- From text to a forest. -/
  | parsing
  /-- From a forest to text. -/
  | serialization
  deriving DecidableEq, Inhabited

/-- The name of a direction. -/
def Direction.name : Direction → String
  | .parsing => "parsing"
  | .serialization => "serialization"

/-- Why a format could not be used. -/
inductive FormatError where
  /-- No format has this name or alias. -/
  | notFound (name : String)
  /-- Something that the format does not do was asked for. -/
  | notSupported (what : String)
  /-- The source has a bad line. -/
  | parse (cause : ParseError)
  /-- The forest could not be written. -/
  | serialization (what : String)
  deriving DecidableEq, Inhabited

namespace FormatError

/-- A format, named in this way, does not go in this direction. -/
def unsupported (name : String) (direction : Direction) : FormatError :=
  .notSupported ("Format '" ++ name ++ "' does not support " ++ direction.name)

/-- What a user is told. -/
def message : FormatError → String
  | .notFound name => "Format '" ++ name ++ "' not found"
  | .notSupported what => "Operation not supported: " ++ what
  | .parse cause => cause.message
  | .serialization what => "Serialization error: " ++ what

/-- The parse error that is behind an error, if one is. -/
def cause? : FormatError → Option ParseError
  | .parse cause => some cause
  | _ => none

end FormatError

end MarkupShorthand
