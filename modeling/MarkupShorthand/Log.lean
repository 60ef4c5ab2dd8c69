/-
  MarkupShorthand.Log
  ───────────────────
  **WHAT A COMPUTATION REPORTS IS PART OF ITS RESULT.**

  Nothing here prints.  A computation that reports returns its value together
  with the records it made, in order; who prints which of them is decided by
  the command line.
-/

namespace MarkupShorthand

/-- How urgent a record is, the most urgent first. -/
inductive LogLevel where
  | error
  | warn
  | info
  | debug
  | trace
  deriving DecidableEq, Inhabited

/-- The name of a level. -/
def LogLevel.name : LogLevel → String
  | .error => "ERROR"
  | .warn => "WARN"
  | .info => "INFO"
  | .debug => "DEBUG"
  | .trace => "TRACE"

/-- The place of a level in the order of urgency, from 1. -/
def LogLevel.rank : LogLevel → Nat
  | .error => 1
  | .warn => 2
  | .info => 3
  | .debug => 4
  | .trace => 5

/-- One record. -/
structure LogRecord where
  /-- How urgent it is. -/
  level : LogLevel
  /-- The part of the program that made it. -/
  target : String
  /-- What it says. -/
  message : String
  deriving DecidableEq, Inhabited

/-- A value together with the records made on the way to it. -/
structure Logged (α : Type) where
  /-- The value. -/
  value : α
  /-- The records in order. -/
  records : List LogRecord := []

/-- The value put through a function, the records kept. -/
def Logged.map {α β : Type} (f : α → β) (logged : Logged α) : Logged β :=
  ⟨f logged.value, logged.records⟩

end MarkupShorthand
