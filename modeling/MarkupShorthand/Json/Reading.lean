/-
  MarkupShorthand.Json.Reading
  ────────────────────────────
  **A JSON TEXT IS READ AS FAR AS IT GOES; WHERE IT STOPS IS PART OF THE VALUE.**

  Whoever takes a value apart from left to right must meet the first thing that
  is wrong first, be it a value of the wrong kind or a text that is no JSON.  So
  a `Reading` keeps the place where reading stopped inside the tree: an array or
  an object that was not closed has an ending that says why, and a value that
  could not be read is `broken`.

  `assemble` builds the tree from tokens with the open arrays and objects on a
  stack, one token at a time.
-/
import MarkupShorthand.Json.Scan

namespace MarkupShorthand.Json

/-! ## §1. Values, as far as they were read. -/

/-- A JSON value, as far as it was read. -/
inductive Reading where
  | null
  | bool (value : Bool)
  /-- A number, and whether it is beyond the finite ones. -/
  | number (tooLarge : Bool)
  /-- A string, without a text if that has half a surrogate pair in it. -/
  | string (text : Option String)
  /-- An array, and what stopped it from being closed. -/
  | array (items : List Reading) (ending : Option Stop)
  /-- An object, and what stopped it from being closed. -/
  | object (members : List (Option String × Reading)) (ending : Option Stop)
  /-- What could not be read. -/
  | broken (stop : Stop)
  deriving Inhabited

/-- A value, and whether more than blanks follows it. -/
structure Text where
  /-- The value. -/
  value : Reading
  /-- Whether more than blanks follows. -/
  trailing : Bool

/-! ## §2. From tokens to values. -/

/-- An array or object that is open, its last item or member first. -/
inductive Frame where
  /-- An array. -/
  | array (done : List Reading)
  /-- An object, and the key whose value is being read. -/
  | object (done : List (Option String × Reading)) (key : Option String)
  deriving Inhabited

/-- What is to come next. -/
inductive Expect where
  /-- A value. -/
  | value
  /-- A value or the end of an array that was just opened. -/
  | firstValue
  /-- A key. -/
  | key
  /-- A key or the end of an object that was just opened. -/
  | firstKey
  /-- The colon behind a key. -/
  | colon
  /-- A comma or an end. -/
  | separator
  deriving DecidableEq, Inhabited

/-- The value of the whole text when reading stops: every frame is closed around
the value that stands innermost. -/
def enclose (innermost : Reading) : List Frame → Reading
  | [] => innermost
  | .array done :: outer => enclose (.array (innermost :: done).reverse none) outer
  | .object done key :: outer =>
    enclose (.object ((key, innermost) :: done).reverse none) outer

/-- The value of the whole text when reading stops between two values. -/
def stopBetween (stop : Stop) : List Frame → Reading
  | [] => .broken stop
  | .array done :: outer => enclose (.array done.reverse (some stop)) outer
  | .object done _ :: outer => enclose (.object done.reverse (some stop)) outer

/-- The value of the whole text when reading stops where something is expected. -/
def stopAt (expect : Expect) (stop : Stop) (frames : List Frame) : Reading :=
  match expect with
  | .value | .colon => enclose (.broken stop) frames
  | .firstValue | .key | .firstKey | .separator => stopBetween stop frames

/-- The frames after a value is put into the innermost one, none if there is
none. -/
def place (value : Reading) : List Frame → Option (List Frame)
  | [] => none
  | .array done :: outer => some (.array (value :: done) :: outer)
  | .object done key :: outer => some (.object ((key, value) :: done) key :: outer)

/-- What one token does: the value that it completes, or the frames and what is
expected next, or the place where reading stops. -/
inductive Progress where
  /-- A value is complete; the frames around it. -/
  | complete (value : Reading) (frames : List Frame)
  /-- Something else is expected now. -/
  | proceed (expect : Expect) (frames : List Frame)
  /-- Reading stops. -/
  | stop (value : Reading)

/-- One token where a value is expected. -/
def takeValue (frames : List Frame) : Token → Progress
  | .null => .complete .null frames
  | .bool value => .complete (.bool value) frames
  | .number tooLarge => .complete (.number tooLarge) frames
  | .string text => .complete (.string text) frames
  | .openArray => .proceed .firstValue (.array [] :: frames)
  | .openObject => .proceed .firstKey (.object [] none :: frames)
  | .faulty _ stop => .stop (enclose (.broken stop) frames)
  | _ => .stop (enclose (.broken (.both .malformed)) frames)

/-- One token where a key is expected. -/
def takeKey (frames : List Frame) (token : Token) : Progress :=
  match token, frames with
  | .string text, .object done _ :: outer => .proceed .colon (.object done text :: outer)
  | .faulty true stop, _ => .stop (stopBetween stop frames)
  | _, _ => .stop (stopBetween (.both .malformed) frames)

/-- One token. -/
def take (expect : Expect) (frames : List Frame) (token : Token) : Progress :=
  match expect, token, frames with
  | .value, _, _ => takeValue frames token
  | .firstValue, .closeArray, .array done :: outer =>
    .complete (.array done.reverse none) outer
  | .firstValue, _, _ => takeValue frames token
  | .firstKey, .closeObject, .object done _ :: outer =>
    .complete (.object done.reverse none) outer
  | .firstKey, _, _ => takeKey frames token
  | .key, _, _ => takeKey frames token
  | .colon, .colon, _ => .proceed .value frames
  | .colon, _, _ => .stop (enclose (.broken (.both .malformed)) frames)
  | .separator, .comma, .array _ :: _ => .proceed .value frames
  | .separator, .comma, .object _ _ :: _ => .proceed .key frames
  | .separator, .closeArray, .array done :: outer =>
    .complete (.array done.reverse none) outer
  | .separator, .closeObject, .object done _ :: outer =>
    .complete (.object done.reverse none) outer
  | .separator, _, _ => .stop (stopBetween (.both .malformed) frames)

/-- Builds the value of a text from its tokens. -/
def assemble (expect : Expect) (frames : List Frame) : List Token → Text
  | [] => ⟨stopAt expect (.both .cutOff) frames, false⟩
  | token :: rest =>
    match take expect frames token with
    | .stop value => ⟨value, false⟩
    | .proceed next frames => assemble next frames rest
    | .complete value outer =>
      match place value outer with
      | none => ⟨value, !rest.isEmpty⟩
      | some frames => assemble .separator frames rest

/-- Reads a text. -/
def read (text : String) : Text :=
  assemble .value [] (tokens text.toList)

/-! ## §3. Taking values apart. -/

/-- Why a value that is not wanted is refused: a fault in its own text comes
before its kind; what is inside an array or object is not looked at. -/
def Reading.refusal : Reading → Fault
  | .number true => .malformed
  | .string none => .malformed
  | .broken stop => stop.wanted
  | _ => .mismatch

mutual

/-- The first thing in a value that keeps it from being skipped. -/
def Reading.skip : Reading → Option Fault
  | .array items ending => (skipItems items).or (ending.map (·.skipped))
  | .object members ending => (skipMembers members).or (ending.map (·.skipped))
  | .broken stop => some stop.skipped
  | _ => none

/-- The first thing in items that keeps them from being skipped. -/
def skipItems : List Reading → Option Fault
  | [] => none
  | item :: rest => (Reading.skip item).or (skipItems rest)

/-- The first thing in members that keeps them from being skipped. -/
def skipMembers : List (Option String × Reading) → Option Fault
  | [] => none
  | (_, value) :: rest => (Reading.skip value).or (skipMembers rest)

end

/-- The string that is wanted. -/
def Reading.wantString : Reading → Except Fault String
  | .string (some text) => .ok text
  | other => .error other.refusal

/-- Nothing is refused when there is no ending to speak of. -/
def endingFault (ending : Option Stop) : Except Fault Unit :=
  match ending with
  | none => .ok ()
  | some stop => .error stop.wanted

/-- What is wanted from a text as a whole: nothing may follow the value. -/
def Text.want {α : Type} (text : Text) (want : Reading → Except Fault α) : Except Fault α :=
  match want text.value with
  | .error fault => .error fault
  | .ok value => if text.trailing then .error .malformed else .ok value

end MarkupShorthand.Json
