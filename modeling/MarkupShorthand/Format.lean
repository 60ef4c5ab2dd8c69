/-
  MarkupShorthand.Format
  ──────────────────────
  **A FORMAT NAMES ITSELF, SAYS WHICH DIRECTIONS IT OFFERS, AND DOES THEM.**

  What a format offers and what it can do are told apart: a format may claim a
  direction and still answer that it is not supported, which is what a format
  does that leaves a direction out.
-/
import MarkupShorthand.FormatError
import MarkupShorthand.Log
import MarkupShorthand.Node

namespace MarkupShorthand

/-- A format of documents. -/
structure Format where
  /-- The name it is registered under. -/
  name : String
  /-- One sentence about it. -/
  description : String := ""
  /-- Other names for it. -/
  aliases : List String := []
  /-- The extensions of its files. -/
  extensions : List String := []
  /-- Whether it offers to parse. -/
  parses : Bool := false
  /-- Whether it offers to serialize. -/
  serializes : Bool := false
  /-- From text to a forest, with the records made on the way. -/
  parse : String → Logged (Except FormatError (List Node)) :=
    fun _ => ⟨.error (.unsupported name .parsing), []⟩
  /-- From a forest to text. -/
  serialize : List Node → Except FormatError String :=
    fun _ => .error (.unsupported name .serialization)

instance : Inhabited Format := ⟨{ name := "" }⟩

end MarkupShorthand
