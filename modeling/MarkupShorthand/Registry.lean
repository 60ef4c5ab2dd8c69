/-
  MarkupShorthand.Registry
  ────────────────────────
  **FORMATS ARE FOUND BY ALIAS FIRST, BY NAME SECOND; THE LATEST REGISTRATION
  WINS.**

  A registry keeps one format per name, in the order of the names, and one name
  per alias.  Registering a format under a name that is taken replaces it; its
  old aliases go on pointing at the name.

  `convert` looks the target up before anything is parsed, so a bad target is
  reported whatever the source is.
-/
import MarkupShorthand.Format
import MarkupShorthand.OrderedMap

namespace MarkupShorthand

/-- The formats that are known. -/
structure Registry where
  /-- One format per name, in the order of the names. -/
  formats : List Format := []
  /-- Aliases with the names that they stand for. -/
  aliases : List (String × String) := []

namespace Registry

/-! ## §1. Registering. -/

/-- The format in its place among formats in the order of their names, in place
of one with the same name. -/
def insert (format : Format) : List Format → List Format
  | [] => [format]
  | other :: rest =>
    if format.name = other.name then format :: rest
    else if format.name < other.name then format :: other :: rest
    else other :: insert format rest

/-- The registry without formats. -/
def empty : Registry := {}

instance : Inhabited Registry := ⟨empty⟩

/-- The registry after a format is registered under its name and its aliases. -/
def register (registry : Registry) (format : Format) : Registry where
  formats := insert format registry.formats
  aliases := format.aliases.map (fun word => (word, format.name)) ++ registry.aliases

/-! ## §2. Looking up. -/

/-- The name that a word stands for: that of the alias, or the word itself. -/
def resolve (registry : Registry) (word : String) : String :=
  (readEntry word registry.aliases).getD word

/-- The format that a word stands for. -/
def find? (registry : Registry) (word : String) : Option Format :=
  registry.formats.find? fun format => format.name == registry.resolve word

/-- The format that a word stands for, or the error that there is none. -/
def get (registry : Registry) (word : String) : Except FormatError Format :=
  match registry.find? word with
  | some format => .ok format
  | none => .error (.notFound word)

/-- Whether a word stands for a format. -/
def has (registry : Registry) (word : String) : Bool :=
  (registry.find? word).isSome

/-- The names of the formats in order. -/
def names (registry : Registry) : List String :=
  registry.formats.map (·.name)

/-! ## §3. Using formats. -/

/-- The part of the program that reports on conversions. -/
def target : String := "shortmark::shortmark::formats::registry"

/-- Parses with the format that a word stands for, if it offers to. -/
def parse (registry : Registry) (source word : String) :
    Logged (Except FormatError (List Node)) :=
  match registry.get word with
  | .error error => ⟨.error error, []⟩
  | .ok format =>
    if format.parses then format.parse source
    else ⟨.error (.unsupported word .parsing), []⟩

/-- Serializes with the format that a word stands for, if it offers to. -/
def serialize (registry : Registry) (forest : List Node) (word : String) :
    Except FormatError String :=
  match registry.get word with
  | .error error => .error error
  | .ok format =>
    if format.serializes then format.serialize forest
    else .error (.unsupported word .serialization)

/-- The record of a conversion. -/
def conversionRecord (source fromWord toName : String) : LogRecord :=
  ⟨.debug, target,
    "converting " ++ toString source.utf8ByteSize ++ " bytes from " ++ fromWord ++
      " to " ++ toName⟩

/-- Parses with one format and serializes with another.  The target is looked up
and asked for what it offers before anything is parsed. -/
def convert (registry : Registry) (source fromWord toWord : String) :
    Logged (Except FormatError String) :=
  match registry.get toWord with
  | .error error => ⟨.error error, []⟩
  | .ok format =>
    if format.serializes then
      let parsed := registry.parse source fromWord
      { value :=
          match parsed.value with
          | .error error => .error error
          | .ok forest => format.serialize forest
        records := conversionRecord source fromWord format.name :: parsed.records }
    else ⟨.error (.unsupported toWord .serialization), []⟩

end Registry

end MarkupShorthand
