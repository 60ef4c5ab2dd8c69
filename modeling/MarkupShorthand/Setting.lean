/-
  MarkupShorthand.Setting
  ───────────────────────
  **SETTINGS ARE A TREE OF VALUES; WRITING A TABLE ADDS TO A TABLE, WRITING
  ANYTHING ELSE REPLACES.**

  Keys are kept in small letters, so `Render` and `render` are one key.  A value
  remembers the file it came from, since a message about it names that file;
  a table that was put together from several places came from nowhere.

  `write` puts a setting at a key of a table.  `set` does the same at the end of
  a path of keys and indexes, making the tables and lists on the way.

  Main fact: `get?_write_scalar` (a key holds what was last written there, and
  no other key changes).
-/
import MarkupShorthand.Decimal.Double
import MarkupShorthand.OrderedMap
import MarkupShorthand.Setting.KeyPath
import MarkupShorthand.Text.LowerCase
import MarkupShorthand.Text.Shown

namespace MarkupShorthand

open Decimal Text

/-! ## §1. The tree. -/

/-- A setting without parts. -/
inductive Scalar where
  /-- No value at all. -/
  | nothing
  | boolean (value : Bool)
  | integer (value : Int)
  | float (value : Double)
  | text (value : String)
  deriving DecidableEq, Inhabited

/-- A setting, with the file that it came from if it came from one. -/
inductive Setting where
  | scalar (value : Scalar) (origin : Option String)
  | list (items : List Setting) (origin : Option String)
  /-- A table, its entries in the order in which they were first written. -/
  | table (entries : List (String × Setting)) (origin : Option String)

namespace Setting

/-- The setting without a value. -/
def nothing : Setting := .scalar .nothing none

/-- The table without entries. -/
def emptyTable : Setting := .table [] none

instance : Inhabited Setting := ⟨nothing⟩

/-- The file that a setting came from. -/
def origin? : Setting → Option String
  | .scalar _ origin => origin
  | .list _ origin => origin
  | .table _ origin => origin

/-- What a setting is, for a message. -/
def kindText : Setting → String
  | .scalar .nothing _ => "unit value"
  | .scalar (.boolean value) _ => "boolean `" ++ (if value then "true" else "false") ++ "`"
  | .scalar (.integer value) _ => "integer `" ++ toString value ++ "`"
  | .scalar (.float value) _ => "floating point `" ++ value.pointedText ++ "`"
  | .scalar (.text value) _ => "string " ++ shown value
  | .list _ _ => "sequence"
  | .table _ _ => "map"

/-! ## §2. Looking. -/

/-- The entries of a table, none for any other setting. -/
def entries : Setting → List (String × Setting)
  | .table entries _ => entries
  | _ => []

/-- The items of a list, none for any other setting. -/
def items : Setting → List Setting
  | .list items _ => items
  | _ => []

/-- What stands at a key. -/
def get? (setting : Setting) (key : String) : Option Setting :=
  readEntry (lowerCase key) setting.entries

/-! ## §3. Writing at a key. -/

/-- The setting with other entries: a table stays from where it was, anything
else gives way to a table. -/
def withEntries (setting : Setting) (entries : List (String × Setting)) : Setting :=
  match setting with
  | .table _ origin => .table entries origin
  | _ => .table entries none

mutual

/-- Writes a value at a key.  The entries of a table are added one by one to what
stands there; any other value takes its place. -/
def write (target : Setting) (key : String) : Setting → Setting
  | .table entries _ =>
    target.withEntries
      (writeEntry (lowerCase key) (addAll ((target.get? key).getD emptyTable) entries)
        target.entries)
  | .list items origin =>
    target.withEntries (writeEntry (lowerCase key) (.list items origin) target.entries)
  | .scalar value origin =>
    target.withEntries (writeEntry (lowerCase key) (.scalar value origin) target.entries)

/-- Writes entries one after the other. -/
def addAll (target : Setting) : List (String × Setting) → Setting
  | [] => target
  | (key, value) :: rest => addAll (write target key value) rest

end

@[simp] theorem entries_withEntries (setting : Setting) (entries : List (String × Setting)) :
    (setting.withEntries entries).entries = entries := by
  cases setting <;> rfl

theorem get?_withEntries_writeEntry (target : Setting) (key : String) (value : Setting)
    (other : String) :
    (target.withEntries (writeEntry (lowerCase key) value target.entries)).get? other =
      if lowerCase key = lowerCase other then some value else target.get? other := by
  simp [get?, readEntry_writeEntry]

/-- A value without parts stands where it was written, and all else stays. -/
theorem get?_write_scalar (target : Setting) (key : String) (value : Scalar)
    (origin : Option String) (other : String) :
    (target.write key (.scalar value origin)).get? other =
      if lowerCase key = lowerCase other then some (.scalar value origin)
      else target.get? other := by
  rw [write]
  exact get?_withEntries_writeEntry target key (.scalar value origin) other

/-! ## §4. Writing at the end of a path. -/

/-- The items with as many in front or behind as an index needs to have a place,
and that place. -/
def makePlace (index : Int) (items : List Setting) : List Setting × Nat :=
  if 0 ≤ index then
    (items ++ List.replicate (index.toNat + 1 - items.length) nothing, index.toNat)
  else
    let back := (-index).toNat
    (List.replicate (back - items.length) nothing ++ items, items.length - back)

/-- Writes a value at the end of a path below a setting. -/
def set (target : Setting) (path : List PathStep) (value : Setting) : Setting :=
  match path with
  | [] => value
  | [.child key] => target.write key value
  | .child key :: rest =>
    target.withEntries
      (writeEntry (lowerCase key) (set ((target.get? key).getD nothing) rest value)
        target.entries)
  | .item index :: rest =>
    let (places, position) := makePlace index target.items
    .list (places.modify position fun item => set item rest value)
      (match target with
        | .list _ origin => origin
        | _ => none)

end Setting

end MarkupShorthand
