/-
  MarkupShorthand.Configuration.Layer
  ───────────────────────────────────
  **LATER FILES LIE OVER EARLIER ONES, OVERRIDES OVER ALL FILES, AND ONLY WHAT
  SHOWS AT THE END HAS TO FIT.**

  Layers may come in any order.  First every override has to name a place; then
  the files are read in order and added to the defaults; then the overrides are
  written in order; then the configuration is read out of the result.

  An override is a single value here, while a file may hold lists and tables.
-/
import MarkupShorthand.Configuration
import MarkupShorthand.FileContent
import MarkupShorthand.Setting.OfToml

namespace MarkupShorthand.Configuration

/-- A layer over the defaults. -/
inductive Layer where
  /-- A file; one that is not required may be missing. -/
  | file (name : String) (required : Bool)
  /-- A single value for the place that a key path names.  The program takes tables
  and lists there as well; overrides with those are left out. -/
  | override (key : String) (value : Scalar)
  deriving DecidableEq

namespace Layer

/-- The files among layers: names, and whether they are required. -/
def files : List Layer → List (String × Bool)
  | [] => []
  | .file name required :: rest => (name, required) :: files rest
  | .override _ _ :: rest => files rest

/-- The overrides among layers. -/
def overrides : List Layer → List (String × Scalar)
  | [] => []
  | .file _ _ :: rest => overrides rest
  | .override key value :: rest => (key, value) :: overrides rest

end Layer

/-! ## §1. Files. -/

/-- The extension that may be left out of the name of a file. -/
def extension : String := ".toml"

/-- The paths where a file of this name is looked for. -/
def candidates (name : String) : List String :=
  [name, Path.plain name ++ extension]

/-- The first candidate that is a file, and what it holds. -/
def findFile (read : String → FileContent) (name : String) : Option (String × FileContent) :=
  (candidates name).findSome? fun path =>
    if (read path).isFile then some (Path.plain path, read path) else none

/-- The settings after a file is added. -/
def addFile (read : String → FileContent) (settings : Setting) (name : String)
    (required : Bool) : Except ConfigurationFailure Setting :=
  match findFile read name with
  | some (path, .text content) =>
    match Toml.read content with
    | some entries => .ok (settings.addToml path entries)
    | none => .error .badToml
  | some _ => if required then .error .notText else .ok settings
  | none => if required then .error (.noFile name) else .ok settings

/-- The settings after files are added one after the other. -/
def addFiles (read : String → FileContent) (settings : Setting) :
    List (String × Bool) → Except ConfigurationFailure Setting
  | [] => .ok settings
  | (name, required) :: rest =>
    match addFile read settings name required with
    | .error failure => .error failure
    | .ok added => addFiles read added rest

/-! ## §2. Overrides. -/

/-- The overrides with their key paths, unless one does not name a place. -/
def overridePaths : List (String × Scalar) → Except ConfigurationFailure (List (KeyPath × Scalar))
  | [] => .ok []
  | (key, value) :: rest =>
    match KeyPath.ofText? key with
    | none => .error .badKeyPath
    | some path => (overridePaths rest).map ((path, value) :: ·)

/-- The settings after overrides are written one after the other. -/
def addOverrides (settings : Setting) (overrides : List (KeyPath × Scalar)) : Setting :=
  overrides.foldl
    (fun settings (path, value) => settings.set path.steps (.scalar value none))
    settings

/-! ## §3. Loading. -/

/-- The configuration that layers over the defaults give, the files being what
`read` says. -/
def load (read : String → FileContent) (layers : List Layer) :
    Except ConfigurationFailure Configuration :=
  match overridePaths (Layer.overrides layers) with
  | .error failure => .error failure
  | .ok overrides =>
    match addFiles read standard.toSetting (Layer.files layers) with
    | .error failure => .error failure
    | .ok settings => ofSettings (addOverrides settings overrides)

end MarkupShorthand.Configuration
