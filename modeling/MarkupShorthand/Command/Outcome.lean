/-
  MarkupShorthand.Command.Outcome
  ───────────────────────────────
  **WHAT A COMMAND DOES IS A FUNCTION OF ITS ARGUMENTS AND OF WHAT IT MAY READ.**

  First the arguments are read, then the configuration is loaded, then the
  source is read, then it is converted.  The first of these that fails ends the
  command with a line of diagnostics and nothing on the output.
-/
import MarkupShorthand.Command.Arguments
import MarkupShorthand.Command.LogFilter
import MarkupShorthand.Configuration.Layer
import MarkupShorthand.Format.BuiltIn

namespace MarkupShorthand.Command

/-! ## §1. What goes in and what comes out. -/

/-- What a command may read. -/
structure Surroundings where
  /-- What a path leads to. -/
  read : String → FileContent
  /-- What stands on the standard input. -/
  input : FileContent
  /-- The log filter, if one is set. -/
  logFilter : Option String

/-- What a command leaves. -/
structure Outcome where
  /-- The exit code: 0 if all went well, 1 if not, 2 if the arguments do not fit. -/
  code : Nat
  /-- What is written to the standard output. -/
  output : String
  /-- What is written to the standard error. -/
  diagnostics : String
  deriving DecidableEq, Inhabited

/-- The name of the program and its version. -/
def versionText : String := "shortmark 0.1.0\n"

/-- How the program is used. -/
def usageText : String :=
  "Convert indentation-based markup shorthand\n\n" ++
    "Usage: shortmark [OPTIONS] <COMMAND>\n\n" ++
    "Commands:\n" ++
    "  convert [PATH] [-t, --to <FORMAT>] [--error-text]\n" ++
    "  inspect [PATH] [-f, --format <FORMAT>]\n" ++
    "  list-formats\n\n" ++
    "Options:\n" ++
    "  -c, --config <FILE>\n" ++
    "  -v, --verbose\n"

/-- The outcome when no command is carried out. -/
def Refusal.outcome : Refusal → Outcome
  | .usage => ⟨2, "", usageText⟩
  | .help => ⟨0, usageText, ""⟩
  | .version => ⟨0, versionText, ""⟩

/-! ## §2. Steps of a command. -/

/-- The outcome of a command that failed. -/
def failed (what : String) : Outcome :=
  ⟨1, "", what ++ "\n"⟩

/-- The outcome of a command with this output. -/
def emitted (configuration : Configuration) (output : String) : Outcome :=
  ⟨0, if configuration.trailingNewline then output ++ "\n" else output, ""⟩

/-- The outcome with more diagnostics in front of its own. -/
def Outcome.after (outcome : Outcome) (diagnostics : String) : Outcome :=
  { outcome with diagnostics := diagnostics ++ outcome.diagnostics }

/-- What is told about a path that leads to no text. -/
def contentProblem : FileContent → String
  | .missing => "No such file or directory (os error 2)"
  | .folder => "Is a directory (os error 21)"
  | _ => "stream did not contain valid UTF-8"

/-- The file that a path names, if it does not stand for the standard input, as a
missing path and a single dash do. -/
def file? (path : Option String) : Option String :=
  path.filter (· != "-")

/-- The source of a command: a file, or the standard input. -/
def readSource (surroundings : Surroundings) (path : Option String) : Except String String :=
  match file? path with
  | some path =>
    match surroundings.read path with
    | .text source => .ok source
    | other => .error ("Error reading file '" ++ path ++ "': " ++ contentProblem other)
  | none =>
    match surroundings.input with
    | .text source => .ok source
    | other => .error ("Error reading stdin: " ++ contentProblem other)

/-- The outcome of a conversion; with `errorText` a parse error is an output
too. -/
def conversionOutcome (configuration : Configuration) (errorText : Bool) :
    Except FormatError String → Outcome
  | .ok output => emitted configuration output
  | .error (.parse cause) =>
    if errorText then emitted configuration (configuration.errorMark ++ cause.message)
    else failed ("Error: " ++ cause.message)
  | .error error => failed ("Error: " ++ error.message)

/-- Converts a source to a format. -/
def convertSource (surroundings : Surroundings) (filter : LogFilter) (configuration : Configuration)
    (path : Option String) (target : String) (errorText : Bool) : Outcome :=
  match readSource surroundings path with
  | .error problem => failed problem
  | .ok source =>
    let result := Registry.default.convert source Format.shorthand.name target
    (conversionOutcome configuration errorText result.value).after (filter.lines result.records)

/-- A format as it is listed. -/
def formatEntry (format : Format) : String :=
  let abilities :=
    (if format.parses then ["parse"] else []) ++ (if format.serializes then ["serialize"] else [])
  "  " ++ format.name ++ " (" ++ ", ".intercalate abilities ++ ")\n" ++
    "    " ++ format.description ++ "\n" ++
    (if format.aliases.isEmpty then ""
      else "    aliases: " ++ ", ".intercalate format.aliases ++ "\n") ++
    "\n"

/-- The list of the formats of a registry. -/
def formatList (registry : Registry) : String :=
  "Available formats:\n\n" ++ String.join (registry.formats.map formatEntry)

/-! ## §3. The command. -/

/-- The configuration of a command. -/
def loadConfiguration (surroundings : Surroundings) (file : Option String) :
    Except ConfigurationFailure Configuration :=
  Configuration.load surroundings.read (file.toList.map fun name => .file name true)

/-- Carries a command out. -/
def Request.outcome (surroundings : Surroundings) (filter : LogFilter)
    (configuration : Configuration) : Request → Outcome
  | .convert path target errorText =>
    convertSource surroundings filter configuration path
      (target.getD configuration.format.name) errorText
  | .inspect path format =>
    convertSource surroundings filter configuration path format false
  | .listFormats => ⟨0, formatList Registry.default, ""⟩

/-- The log filter: the one that is set, or else `debug` with `verbose` and
`warn` without. -/
def logFilter (surroundings : Surroundings) (verbose : Bool) : LogFilter :=
  .ofText (surroundings.logFilter.getD (if verbose then "debug" else "warn"))

/-- Carries out what the arguments ask for. -/
def Arguments.outcome (surroundings : Surroundings) (arguments : Arguments) : Outcome :=
  let filter := logFilter surroundings arguments.verbose
  let result :=
    match loadConfiguration surroundings arguments.config with
    | .error failure => failed ("Error loading configuration: " ++ failure.message)
    | .ok configuration => arguments.request.outcome surroundings filter configuration
  result.after filter.warnings

/-- What the program does with its arguments. -/
def run (surroundings : Surroundings) (arguments : List String) : Outcome :=
  match Arguments.read arguments with
  | .error refusal => refusal.outcome
  | .ok arguments => arguments.outcome surroundings

/-- The paths that the program may look at. -/
def pathsRead (arguments : List String) : List String :=
  match Arguments.read arguments with
  | .error _ => []
  | .ok arguments =>
    arguments.config.toList.flatMap Configuration.candidates ++
      (arguments.request.source?.bind file?).toList

/-- Whether the program reads the standard input. -/
def readsInput (arguments : List String) : Bool :=
  match Arguments.read arguments with
  | .error _ => false
  | .ok arguments => arguments.request.source?.any fun path => (file? path).isNone

end MarkupShorthand.Command
