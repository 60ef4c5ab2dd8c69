/-
  MarkupShorthand.Setting.OfToml
  ──────────────────────────────
  **A TOML FILE ADDS ITS ENTRIES TO THE SETTINGS ONE BY ONE.**

  A key at the top of the file may be a key path; a text that is none is a key
  of its own.  Dates and times are texts among the settings.
-/
import MarkupShorthand.Setting
import MarkupShorthand.Toml.Document

namespace MarkupShorthand.Setting

mutual

/-- A TOML value as a setting that came from somewhere. -/
def ofToml (origin : Option String) : Toml.Value → Setting
  | .string text => .scalar (.text text) origin
  | .integer value => .scalar (.integer value) origin
  | .float value => .scalar (.float value) origin
  | .boolean value => .scalar (.boolean value) origin
  | .datetime text => .scalar (.text text) origin
  | .array items => .list (ofTomlItems origin items) origin
  | .table entries => .table (ofTomlEntries origin entries) origin

/-- The items of an array as settings. -/
def ofTomlItems (origin : Option String) : List Toml.Value → List Setting
  | [] => []
  | item :: rest => ofToml origin item :: ofTomlItems origin rest

/-- The entries of a table as settings. -/
def ofTomlEntries (origin : Option String) : List (String × Toml.Value) → List (String × Setting)
  | [] => []
  | (key, value) :: rest => (key, ofToml origin value) :: ofTomlEntries origin rest

end

/-- The settings after the entries of a file are added. -/
def addToml (settings : Setting) (origin : String) (entries : List (String × Toml.Value)) :
    Setting :=
  entries.foldl
    (fun settings (key, value) =>
      settings.set (KeyPath.ofKey key).steps (ofToml (some origin) value))
    settings

end MarkupShorthand.Setting
