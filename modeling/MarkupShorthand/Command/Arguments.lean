/-
  MarkupShorthand.Command.Arguments
  ─────────────────────────────────
  **ARGUMENTS ARE READ FROM LEFT TO RIGHT; THE FIRST THAT DOES NOT FIT ENDS THE
  READING.**

  A switch has a long name and perhaps a letter.  Letters may share a dash, a
  value may be attached or follow, and two dashes end the switches.  No switch is
  given twice among the same arguments.  The switches of the program itself are
  allowed in front of the command and behind it; what stands behind it counts.
-/

namespace MarkupShorthand.Command

/-! ## §1. Switches. -/

/-- What a switch does. -/
inductive SwitchKind where
  /-- It is on when it is given. -/
  | flag
  /-- It takes a value, which may be empty or not. -/
  | value (emptyAllowed : Bool)
  /-- It asks for help. -/
  | help
  /-- It asks for the version. -/
  | version
  deriving DecidableEq, Inhabited

/-- A switch. -/
structure Switch where
  /-- The name behind two dashes. -/
  name : String
  /-- The letter behind one dash. -/
  letter : Option Char
  /-- What it does. -/
  kind : SwitchKind
  deriving DecidableEq, Inhabited

namespace Switch

/-- The file with the configuration. -/
def config : Switch := ⟨"config", some 'c', .value false⟩

/-- Whether steps are logged. -/
def verbose : Switch := ⟨"verbose", some 'v', .flag⟩

/-- Asks for help. -/
def help : Switch := ⟨"help", some 'h', .help⟩

/-- Asks for the version. -/
def version : Switch := ⟨"version", some 'V', .version⟩

/-- The format to convert to. -/
def target : Switch := ⟨"to", some 't', .value true⟩

/-- Whether the text of a parse error stands in for the output. -/
def errorText : Switch := ⟨"error-text", none, .flag⟩

/-- The format to show a forest in. -/
def format : Switch := ⟨"format", some 'f', .value true⟩

/-- The switches in front of a command. -/
def ofProgram : List Switch := [config, verbose, help, version]

/-- The switches behind every command. -/
def ofCommands : List Switch := [config, verbose, help]

end Switch

/-- Why no command is carried out. -/
inductive Refusal where
  /-- The arguments do not fit. -/
  | usage
  /-- Help was asked for. -/
  | help
  /-- The version was asked for. -/
  | version
  deriving DecidableEq, Inhabited

/-! ## §2. Single arguments. -/

/-- A switch that an argument mentions. -/
inductive Mention where
  /-- A switch that is complete: a flag, or one with its value. -/
  | complete (switch : Switch) (value : Option String)
  /-- A switch whose value is the next argument. -/
  | pending (switch : Switch)
  /-- No switch of this name, or a flag with a value. -/
  | unknown
  deriving DecidableEq, Inhabited

/-- What two dashes and a name mention. -/
def longMention (switches : List Switch) (cs : List Char) : Mention :=
  let name := String.ofList (cs.takeWhile (· != '='))
  match switches.find? (·.name == name), cs.dropWhile (· != '=') with
  | none, _ => .unknown
  | some switch, attached =>
    match switch.kind, attached with
    | .value _, [] => .pending switch
    | .value _, _ :: value => .complete switch (some (.ofList value))
    | _, [] => .complete switch none
    | _, _ => .unknown

/-- What a dash and letters mention; a letter that takes a value takes all that
follows it. -/
def letterMentions (switches : List Switch) : List Char → List Mention
  | [] => []
  | c :: rest =>
    match switches.find? (·.letter == some c) with
    | none => [.unknown]
    | some switch =>
      match switch.kind, rest with
      | .value _, [] => [.pending switch]
      | .value _, '=' :: value => [.complete switch (some (.ofList value))]
      | .value _, value => [.complete switch (some (.ofList value))]
      | _, _ => .complete switch none :: letterMentions switches rest

/-- What an argument is. -/
inductive Argument where
  /-- Two dashes: what follows are no switches. -/
  | dashes
  /-- No switch. -/
  | plain (text : String)
  /-- Switches. -/
  | mentions (items : List Mention)
  deriving DecidableEq, Inhabited

/-- Tells what an argument is. -/
def Argument.of (switches : List Switch) (text : String) : Argument :=
  match text.toList with
  | '-' :: '-' :: [] => .dashes
  | '-' :: '-' :: name => .mentions [longMention switches name]
  | '-' :: c :: letters => .mentions (letterMentions switches (c :: letters))
  | _ => .plain text

/-! ## §3. All arguments of a level. -/

/-- What was given so far: switches with their values, and plain arguments, the
latest first. -/
structure Given where
  /-- The switches by name; a flag has no value. -/
  switches : List (String × Option String) := []
  /-- The plain arguments. -/
  plain : List String := []
  deriving DecidableEq, Inhabited

namespace Given

/-- Whether a switch was given. -/
def has (given : Given) (switch : Switch) : Bool :=
  given.switches.any (·.1 == switch.name)

/-- The value of a switch, if it was given. -/
def value? (given : Given) (switch : Switch) : Option String :=
  (given.switches.lookup switch.name).join

/-- Notes a switch. -/
def note (given : Given) (switch : Switch) (value : Option String) : Except Refusal Given :=
  if given.has switch then .error .usage
  else if switch.kind = .value false ∧ value = some "" then .error .usage
  else .ok { given with switches := (switch.name, value) :: given.switches }

/-- Notes what an argument mentions, up to a switch whose value is still to
come. -/
def noteAll (given : Given) : List Mention → Except Refusal (Given × Option Switch)
  | [] => .ok (given, none)
  | .unknown :: _ => .error .usage
  | .pending switch :: _ => .ok (given, some switch)
  | .complete switch value :: rest =>
    match switch.kind with
    | .help => .error .help
    | .version => .error .version
    | _ =>
      match given.note switch value with
      | .error refusal => .error refusal
      | .ok noted => noteAll noted rest

/-- Notes a switch whose value is an argument of its own; that does not begin like
a switch. -/
def noteFollowing (given : Given) (switch : Switch) (value : String) : Except Refusal Given :=
  if value = "-" ∨ ¬ value.startsWith "-" then given.note switch (some value)
  else .error .usage

/-- Notes a plain argument: it is not empty, and at most `limit` are given. -/
def notePlain (given : Given) (limit : Nat) (text : String) : Except Refusal Given :=
  if text = "" ∨ limit ≤ given.plain.length then .error .usage
  else .ok { given with plain := text :: given.plain }

/-- Notes arguments of which none is a switch. -/
def notePlains (given : Given) (limit : Nat) : List String → Except Refusal Given
  | [] => .ok given
  | text :: rest =>
    match given.notePlain limit text with
    | .error refusal => .error refusal
    | .ok noted => notePlains noted limit rest

end Given

/-- Reads the arguments of the program up to the command; the command and what
follows it is left over. -/
def readProgram (given : Given) : List String → Except Refusal (Given × List String)
  | [] => .ok (given, [])
  | text :: rest =>
    match Argument.of Switch.ofProgram text with
    | .dashes => .error .usage
    | .plain _ => .ok (given, text :: rest)
    | .mentions items =>
      match given.noteAll items with
      | .error refusal => .error refusal
      | .ok (noted, none) => readProgram noted rest
      | .ok (noted, some switch) =>
        match rest with
        | [] => .error .usage
        | value :: behind =>
          match noted.noteFollowing switch value with
          | .error refusal => .error refusal
          | .ok complete => readProgram complete behind

/-- Reads the arguments of a command with these switches and at most `limit` plain
arguments. -/
def readCommand (switches : List Switch) (limit : Nat) (given : Given) :
    List String → Except Refusal Given
  | [] => .ok given
  | text :: rest =>
    match Argument.of switches text with
    | .dashes => given.notePlains limit rest
    | .plain text =>
      match given.notePlain limit text with
      | .error refusal => .error refusal
      | .ok noted => readCommand switches limit noted rest
    | .mentions items =>
      match given.noteAll items with
      | .error refusal => .error refusal
      | .ok (noted, none) => readCommand switches limit noted rest
      | .ok (noted, some switch) =>
        match rest with
        | [] => .error .usage
        | value :: behind =>
          match noted.noteFollowing switch value with
          | .error refusal => .error refusal
          | .ok complete => readCommand switches limit complete behind

/-! ## §4. Commands. -/

/-- What a command is asked to do. -/
inductive Request where
  /-- Converts a source to a format. -/
  | convert (path target : Option String) (errorText : Bool)
  /-- Shows the forest of a source. -/
  | inspect (path : Option String) (format : String)
  /-- Lists the formats. -/
  | listFormats
  deriving DecidableEq, Inhabited

/-- The path of the source that a command reads, if it reads one. -/
def Request.source? : Request → Option (Option String)
  | .convert path _ _ => some path
  | .inspect path _ => some path
  | .listFormats => none

/-- What the arguments ask for. -/
structure Arguments where
  /-- The file with the configuration. -/
  config : Option String
  /-- Whether steps are logged. -/
  verbose : Bool
  /-- What the command is asked to do. -/
  request : Request
  deriving DecidableEq, Inhabited

/-- The format that a forest is shown in unless another one is asked for. -/
def defaultDump : String := "ast-treeviz"

/-- The names of the commands. -/
def commandNames : List String := ["convert", "inspect", "list-formats"]

namespace Arguments

/-- Puts what was given in front of a command and behind it together. -/
def combine (before behind : Given) (request : Request) : Arguments where
  config := (behind.value? .config).or (before.value? .config)
  verbose := before.has .verbose || behind.has .verbose
  request := request

/-- Reads the arguments of the program. -/
def read (arguments : List String) : Except Refusal Arguments := do
  match ← readProgram {} arguments with
  | (_, []) => .error .usage
  | (before, name :: rest) =>
    match name with
    | "convert" =>
      let given ← readCommand (.target :: .errorText :: Switch.ofCommands) 1 {} rest
      return combine before given
        (.convert given.plain.head? (given.value? .target) (given.has .errorText))
    | "inspect" =>
      let given ← readCommand (.format :: Switch.ofCommands) 1 {} rest
      return combine before given
        (.inspect given.plain.head? ((given.value? .format).getD defaultDump))
    | "list-formats" =>
      let given ← readCommand Switch.ofCommands 0 {} rest
      return combine before given .listFormats
    | "help" =>
      if rest.all fun word => commandNames.contains word then .error .help else .error .usage
    | _ => .error .usage

end Arguments

end MarkupShorthand.Command
