/-
  MarkupShorthand.Configuration.Failure
  ─────────────────────────────────────
  **A CONFIGURATION FAILS BY A BAD KEY PATH, A FILE, OR A SETTING THAT DOES NOT
  FIT.**
-/
import MarkupShorthand.Setting

namespace MarkupShorthand

/-- A section of the configuration. -/
inductive ConfigurationSection where
  /-- How output is written. -/
  | render
  /-- How failures are shown. -/
  | display
  deriving DecidableEq, Inhabited

namespace ConfigurationSection

/-- The key of a section. -/
def key : ConfigurationSection → String
  | .render => "render"
  | .display => "display"

/-- The name of a section in messages. -/
def typeName : ConfigurationSection → String
  | .render => "RenderConfig"
  | .display => "DisplayConfig"

/-- The fields of a section in order. -/
def fields : ConfigurationSection → List String
  | .render => ["format", "trailing_newline"]
  | .display => ["error_prefix"]

end ConfigurationSection

/-- Why there is no configuration. -/
inductive ConfigurationFailure where
  /-- An override does not name a place. -/
  | badKeyPath
  /-- A file is not TOML. -/
  | badToml
  /-- A file is not there. -/
  | noFile (name : String)
  /-- A file is not a text. -/
  | notText
  /-- A value is not a truth value, or not a text, as it has to be. -/
  | misfit (found wanted : String) (place : KeyPath) (origin : Option String)
  /-- A section is neither a table nor a list. -/
  | noSection (found : String) (part : ConfigurationSection)
  /-- A list has fewer items than the section has fields. -/
  | tooShort (count : Nat) (part : ConfigurationSection)
  /-- A table has no entry for a field. -/
  | noField (name : String)
  /-- A format is named that there is not. -/
  | noFormat (name : String)
  /-- Something that is no name stands for a format. -/
  | formatShape
  deriving DecidableEq

/-- What a user is told. -/
def ConfigurationFailure.message : ConfigurationFailure → String
  | .badKeyPath => "key path parse error"
  | .badToml => "TOML parse error"
  | .noFile name => "configuration file \"" ++ name ++ "\" not found"
  | .notText => "stream did not contain valid UTF-8"
  | .misfit found wanted place origin =>
    "invalid type: " ++ found ++ ", expected " ++ wanted ++ " for key `" ++ place.text ++ "`" ++
      (match origin with
        | none => ""
        | some file => " in " ++ file)
  | .noSection found part =>
    "invalid type: " ++ found ++ ", expected struct " ++ part.typeName
  | .tooShort count part =>
    let wanted := part.fields.length
    "invalid length " ++ toString count ++ ", expected struct " ++ part.typeName ++ " with " ++
      toString wanted ++ (if wanted = 1 then " element" else " elements")
  | .noField name => "missing field `" ++ name ++ "`"
  | .noFormat name => "enum OutputFormat does not have variant constructor " ++ name
  | .formatShape =>
    "value of enum OutputFormat should be represented by either string or table with exactly " ++
      "one key"

end MarkupShorthand
