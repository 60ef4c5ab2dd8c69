/-
  MarkupShorthand.Toml.Value
  ──────────────────────────
  **WHAT A TOML TEXT SAYS: TEXTS, NUMBERS, TRUTH VALUES, DATES, ARRAYS AND
  TABLES.**

  A date or time is kept as its normal text, since settings are never dates.
-/
import MarkupShorthand.Decimal.Double

namespace MarkupShorthand.Toml

open Decimal

/-! ## §1. Values. -/

/-- A TOML value. -/
inductive Value where
  | string (text : String)
  | integer (value : Int)
  | float (value : Double)
  | boolean (value : Bool)
  /-- A date, a time or both, in its normal text. -/
  | datetime (text : String)
  | array (items : List Value)
  /-- A table, its entries in order. -/
  | table (entries : List (String × Value))
  deriving Inhabited

/-! ## §2. Equality. -/

namespace Value

mutual

/-- Whether two values are the same. -/
def same : Value → Value → Bool
  | .string text, .string other => text == other
  | .integer value, .integer other => value == other
  | .float value, .float other => value == other
  | .boolean value, .boolean other => value == other
  | .datetime text, .datetime other => text == other
  | .array items, .array others => sameItems items others
  | .table entries, .table others => sameEntries entries others
  | _, _ => false

/-- Whether two arrays have the same items. -/
def sameItems : List Value → List Value → Bool
  | [], [] => true
  | item :: items, other :: others => same item other && sameItems items others
  | _, _ => false

/-- Whether two tables have the same entries. -/
def sameEntries : List (String × Value) → List (String × Value) → Bool
  | [], [] => true
  | (key, value) :: entries, (otherKey, other) :: others =>
    key == otherKey && same value other && sameEntries entries others
  | _, _ => false

end

mutual

theorem same_iff : ∀ value other : Value, value.same other = true ↔ value = other
  | .array items, other => by
    cases other with
    | array others => simp [same, sameItems_iff items others]
    | _ => simp [same]
  | .table entries, other => by
    cases other with
    | table others => simp [same, sameEntries_iff entries others]
    | _ => simp [same]
  | .string text, other => by cases other <;> simp [same]
  | .integer value, other => by cases other <;> simp [same]
  | .float value, other => by cases other <;> simp [same]
  | .boolean value, other => by cases other <;> simp [same]
  | .datetime text, other => by cases other <;> simp [same]

theorem sameItems_iff : ∀ items others : List Value, sameItems items others = true ↔ items = others
  | [], others => by cases others <;> simp [sameItems]
  | item :: items, others => by
    cases others with
    | nil => simp [sameItems]
    | cons other others => simp [sameItems, same_iff item other, sameItems_iff items others]

theorem sameEntries_iff : ∀ entries others : List (String × Value),
    sameEntries entries others = true ↔ entries = others
  | [], others => by cases others <;> simp [sameEntries]
  | (key, value) :: entries, others => by
    cases others with
    | nil => simp [sameEntries]
    | cons other others =>
      simp [sameEntries, same_iff value other.2, sameEntries_iff entries others, Prod.ext_iff]

end

instance : DecidableEq Value := fun value other =>
  decidable_of_iff (value.same other = true) (same_iff value other)

end Value

end MarkupShorthand.Toml
