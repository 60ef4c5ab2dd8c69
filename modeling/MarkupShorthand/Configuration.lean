/-
  MarkupShorthand.Configuration
  ─────────────────────────────
  **THREE SETTINGS ARE READ OUT OF THE TREE, EACH BY THE RULES OF ITS KIND.**

  A truth value may be spelt as a number or a word, a text may be any value
  without parts, and a format may be spelt in any letter case or be the one key
  of a table.  A section is a table with the fields as keys, or a list with the
  fields in order.
-/
import MarkupShorthand.Configuration.Failure
import MarkupShorthand.OutputFormat

namespace MarkupShorthand

open Text

/-- What can be configured. -/
structure Configuration where
  /-- The format of the output unless another one is asked for. -/
  format : OutputFormat
  /-- Whether a line feed follows the output. -/
  trailingNewline : Bool
  /-- What stands in front of an error that is shown in place of output. -/
  errorMark : String
  deriving DecidableEq

namespace Configuration

/-- The configuration that holds unless something else is said. -/
def standard : Configuration := ⟨.markup, true, OutputFormat.defaultErrorMark⟩

instance : Inhabited Configuration := ⟨standard⟩

/-- The configuration as settings. -/
def toSetting (configuration : Configuration) : Setting :=
  .table
    [("render",
      .table
        [("format", .scalar (.text configuration.format.name) none),
          ("trailing_newline", .scalar (.boolean configuration.trailingNewline) none)]
        none),
      ("display",
        .table [("error_prefix", .scalar (.text configuration.errorMark) none)] none)]
    none

/-! ## §1. Single values. -/

/-- The truth value that a word in small letters stands for. -/
def booleanOfWord? (word : String) : Option Bool :=
  if ["1", "true", "on", "yes"].contains word then some true
  else if ["0", "false", "off", "no"].contains word then some false
  else none

/-- The truth value that a setting stands for. -/
def readBoolean (place : KeyPath) (setting : Setting) : Except ConfigurationFailure Bool :=
  let misfit (found : String) : Except ConfigurationFailure Bool :=
    .error (.misfit found "a boolean" place setting.origin?)
  match setting with
  | .scalar (.boolean value) _ => .ok value
  | .scalar (.integer value) _ => .ok (value != 0)
  | .scalar (.float value) _ => .ok (!value.isZero)
  | .scalar (.text word) _ =>
    match booleanOfWord? (lowerCase word) with
    | some value => .ok value
    | none => misfit (Setting.scalar (.text (lowerCase word)) none).kindText
  | other => misfit other.kindText

/-- The text that a setting stands for. -/
def readText (place : KeyPath) (setting : Setting) : Except ConfigurationFailure String :=
  match setting with
  | .scalar (.boolean value) _ => .ok (if value then "true" else "false")
  | .scalar (.integer value) _ => .ok (toString value)
  | .scalar (.float value) _ => .ok value.text
  | .scalar (.text text) _ => .ok text
  | other => .error (.misfit other.kindText "a string" place other.origin?)

/-- The format with this name, in any letter case. -/
def formatOfName (name : String) : Except ConfigurationFailure OutputFormat :=
  match OutputFormat.ofWord? (lowerCase name) with
  | some format => .ok format
  | none => .error (.noFormat name)

/-- The format that a setting stands for. -/
def readFormat (setting : Setting) : Except ConfigurationFailure OutputFormat :=
  match setting with
  | .scalar (.text name) _ => formatOfName name
  | .table [(name, _)] _ => formatOfName name
  | _ => .error .formatShape

/-! ## §2. Sections. -/

/-- A field of a section, with its place: an entry of a table or an item of a
list. -/
def field? (part : ConfigurationSection) (index : Nat) (setting : Setting) :
    Option (KeyPath × Setting) :=
  match setting with
  | .list items _ => (items[index]?).map fun item => (⟨part.key, [.item index]⟩, item)
  | other =>
    (part.fields[index]?).bind fun name =>
      (other.get? name).map fun value => (⟨part.key, [.child name]⟩, value)

/-- A field of a section read by the rules of its kind, if it is there. -/
def readField {α : Type} (part : ConfigurationSection) (index : Nat)
    (read : KeyPath → Setting → Except ConfigurationFailure α) (setting : Setting) :
    Except ConfigurationFailure (Option α) :=
  match field? part index setting with
  | none => .ok none
  | some (place, value) => (read place value).map some

/-- The failure that a field of a section is not there. -/
def absent (part : ConfigurationSection) (index : Nat) (setting : Setting) :
    ConfigurationFailure :=
  match setting with
  | .list items _ => .tooShort items.length part
  | _ => .noField (part.fields.getD index "")

/-- The section among all settings; it is no single value. -/
def findSection (part : ConfigurationSection) (settings : Setting) :
    Except ConfigurationFailure Setting :=
  match settings.get? part.key with
  | none => .error (.noField part.key)
  | some (.scalar value origin) =>
    .error (.noSection (Setting.scalar value origin).kindText part)
  | some other => .ok other

/-- The fields of the section `render`: those that are there are read before one
that is not is reported. -/
def readRender (settings : Setting) : Except ConfigurationFailure (OutputFormat × Bool) := do
  let part ← findSection .render settings
  let format ← readField .render 0 (fun _ => readFormat) part
  let newline ← readField .render 1 readBoolean part
  match format, newline with
  | none, _ => .error (absent .render 0 part)
  | some _, none => .error (absent .render 1 part)
  | some format, some newline => .ok (format, newline)

/-- The field of the section `display`. -/
def readDisplay (settings : Setting) : Except ConfigurationFailure String := do
  let part ← findSection .display settings
  match ← readField .display 0 readText part with
  | none => .error (absent .display 0 part)
  | some errorMark => .ok errorMark

/-- The configuration that settings describe. -/
def ofSettings (settings : Setting) : Except ConfigurationFailure Configuration := do
  let (format, trailingNewline) ← readRender settings
  let errorMark ← readDisplay settings
  return ⟨format, trailingNewline, errorMark⟩

end Configuration

end MarkupShorthand
