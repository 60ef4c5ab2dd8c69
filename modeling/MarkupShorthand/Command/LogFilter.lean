/-
  MarkupShorthand.Command.LogFilter
  ─────────────────────────────────
  **WHICH RECORDS ARE SHOWN IS DECIDED BY THE LONGEST RULE THAT FITS WHERE THEY
  COME FROM.**

      filter  rule (',' rule)* ('/' pattern)?
      rule    level | target | target '=' level | target '='

  A rule for a target also holds for what lies below it.  A level alone holds
  everywhere, a target alone lets everything through, and without any rule only
  errors are shown.  With a pattern only records that contain it are shown; every
  character of a pattern stands for itself.
-/
import MarkupShorthand.Log
import MarkupShorthand.Text.Blank

namespace MarkupShorthand.Command

open Text

/-- A rule: the records of a target that are at least this urgent, or none. -/
structure LogRule where
  /-- The target; every target if there is none. -/
  target : Option String
  /-- The least urgent level that is shown, if any is. -/
  level : Option LogLevel
  deriving DecidableEq, Inhabited

/-- Which records are shown. -/
structure LogFilter where
  /-- The rules. -/
  rules : List LogRule
  /-- What a record has to contain. -/
  pattern : Option String
  /-- What could not be read. -/
  complaints : List String
  deriving DecidableEq, Inhabited

namespace LogFilter

/-! ## §1. Reading. -/

/-- The levels. -/
def levels : List LogLevel := [.error, .warn, .info, .debug, .trace]

/-- The level that a word stands for, in any letter case; `off` is no level. -/
def level? (word : String) : Option (Option LogLevel) :=
  if word.toLower = "off" then some none
  else (levels.find? fun level => level.name.toLower == word.toLower).map some

/-- The text without blanks at its ends. -/
def trimmed (text : String) : String :=
  .ofList (trim text.toList)

/-- Reads one rule, or says what is wrong with it. -/
def readRule (text : String) : Except String LogRule :=
  match text.splitOn "=" with
  | [word] =>
    match level? word with
    | some level => .ok ⟨none, level⟩
    | none => .ok ⟨some word, some .trace⟩
  | [target, word] =>
    if trimmed word = "" then .ok ⟨some target, some .trace⟩
    else
      match level? (trimmed word) with
      | some level => .ok ⟨some target, level⟩
      | none => .error ("invalid logging spec '" ++ trimmed word ++ "'")
  | _ => .error ("invalid logging spec '" ++ text ++ "'")

/-- The rules with one more; it takes the place of one for the same target. -/
def addRule (rule : LogRule) : List LogRule → List LogRule
  | [] => [rule]
  | other :: rest =>
    if other.target = rule.target then rule :: rest else other :: addRule rule rest

/-- Reads rules one after the other. -/
def readRules (filter : LogFilter) : List String → LogFilter
  | [] => filter
  | text :: rest =>
    if trimmed text = "" then readRules filter rest
    else
      match readRule (trimmed text) with
      | .ok rule => readRules { filter with rules := addRule rule filter.rules } rest
      | .error complaint =>
        readRules { filter with complaints := filter.complaints ++ [complaint] } rest

/-- The filter without rules. -/
def empty : LogFilter := ⟨[], none, []⟩

/-- Reads a filter. -/
def ofText (text : String) : LogFilter :=
  match text.splitOn "/" with
  | [rules] => readRules empty (rules.splitOn ",")
  | [rules, pattern] => { readRules empty (rules.splitOn ",") with pattern := some pattern }
  | _ =>
    { empty with complaints := ["invalid logging spec '" ++ text ++ "' (too many '/'s)"] }

/-! ## §2. Using. -/

/-- The longer of two rules, the later of two that are equally long. -/
def longer (best : Option LogRule) (rule : LogRule) : Option LogRule :=
  let length (r : LogRule) : Nat := (r.target.getD "").utf8ByteSize
  match best with
  | none => some rule
  | some other => if length other ≤ length rule then some rule else some other

/-- The rule that decides about a target. -/
def ruleFor (filter : LogFilter) (target : String) : Option LogRule :=
  let rules := if filter.rules.isEmpty then [⟨none, some .error⟩] else filter.rules
  (rules.filter fun rule => target.startsWith (rule.target.getD "")).foldl longer none

/-- Whether a text occurs in another one. -/
def occursIn (pattern : List Char) : List Char → Bool
  | [] => pattern.isEmpty
  | c :: rest => pattern.isPrefixOf (c :: rest) || occursIn pattern rest

/-- Whether a record is shown. -/
def shows (filter : LogFilter) (record : LogRecord) : Bool :=
  let urgent :=
    match (filter.ruleFor record.target).bind (·.level) with
    | none => false
    | some level => record.level.rank ≤ level.rank
  urgent &&
    (filter.pattern.all fun pattern => occursIn pattern.toList record.message.toList)

/-- A record as it is shown. -/
def line (record : LogRecord) : String :=
  let name := record.level.name
  let padding := String.ofList (List.replicate (5 - name.length) ' ')
  "[" ++ name ++ padding ++ " " ++ record.target ++ "] " ++ record.message ++ "\n"

/-- What is shown of records. -/
def lines (filter : LogFilter) (records : List LogRecord) : String :=
  String.join ((records.filter filter.shows).map line)

/-- What is shown about the filter itself. -/
def warnings (filter : LogFilter) : String :=
  String.join (filter.complaints.map fun complaint =>
    "warning: " ++ complaint ++ ", ignoring it\n")

end LogFilter

end MarkupShorthand.Command
