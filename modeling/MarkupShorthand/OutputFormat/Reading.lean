/-
  MarkupShorthand.OutputFormat.Reading
  ────────────────────────────────────
  **IN JSON A FORMAT IS ITS NAME, OR AN OBJECT WITH THAT NAME AS ITS ONE KEY AND
  NULL AS ITS VALUE.**
-/
import MarkupShorthand.Json.Reading
import MarkupShorthand.OutputFormat

namespace MarkupShorthand.OutputFormat

open Json

/-- The format with this name, which is wanted. -/
def wantName (name : String) : Except Fault OutputFormat :=
  match ofWord? name with
  | some format => .ok format
  | none => .error .mismatch

/-- The format that a JSON value names. -/
def ofReading : Reading → Except Fault OutputFormat
  | .string (some name) => wantName name
  | .object [(some name, .null)] none => wantName name
  | other => .error other.refusal

/-- Reads the format that a JSON text names. -/
def read (text : String) : Except Fault OutputFormat :=
  (Json.read text).want ofReading

end MarkupShorthand.OutputFormat
