/-
  MarkupShorthand.Json.Value
  ──────────────────────────
  **THE JSON THAT IS WRITTEN: STRINGS, ARRAYS AND OBJECTS, COMPACT OR PRETTY.**

  The compact text has no blanks.  The pretty text puts every item of an array
  and every member of an object on a line of its own, two spaces per level; an
  empty array or object stays `[]` or a pair of braces in both.
-/
import MarkupShorthand.Json.Quoted

namespace MarkupShorthand.Json

/-- A JSON value of the kinds that a forest needs. -/
inductive Value where
  /-- A string. -/
  | string (text : String)
  /-- An array. -/
  | array (items : List Value)
  /-- An object, its members in order. -/
  | object (members : List (String × Value))
  deriving Inhabited

namespace Value

/-! ## §1. Compact text. -/

mutual

/-- The value without any blanks. -/
def compact : Value → String
  | .string text => quoted text
  | .array items => "[" ++ ",".intercalate (compactItems items) ++ "]"
  | .object members => "\x7b" ++ ",".intercalate (compactMembers members) ++ "\x7d"

/-- The items of an array. -/
def compactItems : List Value → List String
  | [] => []
  | item :: rest => item.compact :: compactItems rest

/-- The members of an object. -/
def compactMembers : List (String × Value) → List String
  | [] => []
  | (key, value) :: rest => (quoted key ++ ":" ++ value.compact) :: compactMembers rest

end

/-! ## §2. Pretty text. -/

/-- A line feed and the indent of a level. -/
def newLine (level : Nat) : String :=
  .ofList ('\n' :: List.replicate (2 * level) ' ')

/-- Parts between brackets, each on its own line one level deeper. -/
def block (level : Nat) (opening closing : String) (parts : List String) : String :=
  if parts.isEmpty then opening ++ closing
  else
    opening ++ newLine (level + 1) ++
      (("," ++ newLine (level + 1)).intercalate parts) ++ newLine level ++ closing

mutual

/-- The value with an item or a member per line. -/
def pretty (level : Nat) : Value → String
  | .string text => quoted text
  | .array items => block level "[" "]" (prettyItems (level + 1) items)
  | .object members => block level "\x7b" "\x7d" (prettyMembers (level + 1) members)

/-- The items of an array. -/
def prettyItems (level : Nat) : List Value → List String
  | [] => []
  | item :: rest => item.pretty level :: prettyItems level rest

/-- The members of an object. -/
def prettyMembers (level : Nat) : List (String × Value) → List String
  | [] => []
  | (key, value) :: rest =>
    (quoted key ++ ": " ++ value.pretty level) :: prettyMembers level rest

end

end Value

end MarkupShorthand.Json
