/-
  MarkupShorthand.Json.Token
  ──────────────────────────
  **A JSON TEXT AS TOKENS, UP TO THE FIRST ONE THAT CANNOT BE READ.**

  A reader that skips a value is more forgiving than one that wants it: it lets
  half a surrogate pair pass, and it does not mind how large a number is.  So a
  string token holds its text only if there is one, a number token says whether
  it is too large, and a token that cannot be read at all (`Token.faulty`, always
  the last) holds what either reader has to say about it.
-/
namespace MarkupShorthand.Json

/-! ## §1. Faults. -/

/-- Why a JSON text is refused. -/
inductive Fault where
  /-- It ends too early. -/
  | cutOff
  /-- It is not JSON. -/
  | malformed
  /-- It is JSON, but not of the kind that is wanted. -/
  | mismatch
  deriving DecidableEq, Inhabited

/-- What stops two readers at one place: the one that wants the value there, and
the one that skips it. -/
structure Stop where
  /-- Why the value cannot be had. -/
  wanted : Fault
  /-- Why it cannot be skipped. -/
  skipped : Fault
  deriving DecidableEq, Inhabited

/-- The same fault for both readers. -/
def Stop.both (fault : Fault) : Stop := ⟨fault, fault⟩

/-- A piece of a JSON text. -/
inductive Token where
  | openArray
  | closeArray
  | openObject
  | closeObject
  | comma
  | colon
  | null
  | bool (value : Bool)
  /-- A number, and whether it is beyond the finite ones. -/
  | number (tooLarge : Bool)
  /-- A string, without a text if that has half a surrogate pair in it. -/
  | string (text : Option String)
  /-- What cannot be read, and whether it began as a string. -/
  | faulty (quoted : Bool) (stop : Stop)
  deriving DecidableEq, Inhabited

end MarkupShorthand.Json
