/-
  MarkupShorthand.Setting.KeyPath
  ───────────────────────────────
  **A KEY PATH NAMES A PLACE AMONG THE SETTINGS: A KEY, THEN KEYS AND INDEXES.**

      path   key step*
      step   '.' key | '[' index ']'
      key    letters, digits, spaces, '_' and '-', at least one
      index  digits, perhaps behind a minus, with blanks around

  A minus counts from the end of a list.
-/
import MarkupShorthand.Decimal.Numeral

namespace MarkupShorthand

open Decimal

/-- A step from a setting to a part of it. -/
inductive PathStep where
  /-- To what stands at a key of a table. -/
  | child (key : String)
  /-- To an item of a list. -/
  | item (index : Int)
  deriving DecidableEq, Inhabited

/-- A place among the settings. -/
structure KeyPath where
  /-- The key at the top. -/
  head : String
  /-- The steps down from there. -/
  tail : List PathStep
  deriving DecidableEq, Inhabited

namespace KeyPath

/-- The path as steps from the table of all settings. -/
def steps (path : KeyPath) : List PathStep :=
  .child path.head :: path.tail

/-! ## §1. Writing. -/

/-- A step as it is written. -/
def stepText : PathStep → String
  | .child key => "." ++ key
  | .item index => "[" ++ toString index ++ "]"

/-- A path as it is written. -/
def text (path : KeyPath) : String :=
  path.head ++ String.join (path.tail.map stepText)

/-! ## §2. Reading. -/

/-- What a key in a path is made of. -/
def isKeyChar (c : Char) : Bool :=
  c.isAlphanum || c == ' ' || c == '_' || c == '-'

/-- The number of an item. -/
def index? (cs : List Char) : Option Int :=
  match cs with
  | '-' :: digits =>
    if digits.all Char.isDigit then
      ((naturalOf? 10 digits).filter fun n => n ≤ Nat.pow 2 63).map fun n => -(n : Int)
    else none
  | digits =>
    if digits.all Char.isDigit then
      ((naturalOf? 10 digits).filter fun n => n < Nat.pow 2 63).map fun n => (n : Int)
    else none

/-- The text without blanks at its ends. -/
def trimSpaces (cs : List Char) : List Char :=
  let isSpace (c : Char) : Bool := c == ' ' || c == '\t'
  ((cs.dropWhile isSpace).reverse.dropWhile isSpace).reverse

/-- Reads steps to the end of the text; the number bounds them. -/
def readSteps : Nat → List Char → Option (List PathStep)
  | _, [] => some []
  | 0, _ => none
  | bound + 1, mark :: rest =>
    if mark = '.' then
      let key := rest.takeWhile isKeyChar
      if key.isEmpty then none
      else (readSteps bound (rest.dropWhile isKeyChar)).map (.child (.ofList key) :: ·)
    else if mark = '[' then
      match index? (trimSpaces (rest.takeWhile (· != ']'))), rest.dropWhile (· != ']') with
      | some index, _ :: behind => (readSteps bound behind).map (.item index :: ·)
      | _, _ => none
    else none

/-- The path that a text names. -/
def ofText? (text : String) : Option KeyPath :=
  let cs := text.toList
  let key := cs.takeWhile isKeyChar
  if key.isEmpty then none
  else (readSteps cs.length (cs.dropWhile isKeyChar)).map (⟨.ofList key, ·⟩)

/-- The path that a text names, or the text as a single key. -/
def ofKey (text : String) : KeyPath :=
  (ofText? text).getD ⟨text, []⟩

end KeyPath

end MarkupShorthand
