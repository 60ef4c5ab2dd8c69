/-
  MarkupShorthand.Snapshot.Reading
  ────────────────────────────────
  **A SNAPSHOT IS READ BACK STRICTLY: THE FIRST THING THAT DOES NOT FIT, IN THE
  ORDER OF THE TEXT, IS THE ANSWER.**

  A node is an object of known members or an array of the same values in their
  order.  Tag and attributes must be there, styles and text may be null or left
  out, children may be left out.  A member that is not known is skipped; a known
  one that is repeated is refused as soon as its key is read.  A repeated key of
  a map overwrites.

  Arrays and objects may be nested up to a limit; values that are skipped are
  not counted.
-/
import MarkupShorthand.Json.Reading
import MarkupShorthand.Node

namespace MarkupShorthand

open Json

/-! ## §1. Maps. -/

/-- Writes the members of an object into a map. -/
def OrderedMap.wantMembers (map : OrderedMap) :
    List (Option String × Reading) → Except Fault OrderedMap
  | [] => .ok map
  | (none, _) :: _ => .error .malformed
  | (some key, value) :: rest =>
    match value.wantString with
    | .error fault => .error fault
    | .ok text => (map.set key text).wantMembers rest

/-- The map of texts that is wanted, with so many nestings left. -/
def OrderedMap.ofReading (budget : Nat) : Reading → Except Fault OrderedMap
  | .object members ending =>
    if budget = 0 then .error .malformed
    else
      match OrderedMap.empty.wantMembers members, endingFault ending with
      | .error fault, _ => .error fault
      | .ok _, .error fault => .error fault
      | .ok map, .ok () => .ok map
  | other => .error other.refusal

namespace Snapshot

/-! ## §2. The members of a node. -/

/-- The known members, in the order in which an array gives them. -/
inductive Field where
  | tag
  | attrs
  | styles
  | text
  | children
  deriving DecidableEq, Inhabited

/-- The known members in order. -/
def Field.all : List Field := [.tag, .attrs, .styles, .text, .children]

/-- The key of a member. -/
def Field.key : Field → String
  | .tag => "tag"
  | .attrs => "attrs"
  | .styles => "styles"
  | .text => "text"
  | .children => "children"

/-- The member with this key. -/
def Field.ofKey? (key : String) : Option Field :=
  Field.all.find? fun field => field.key == key

/-- What has been read of a node. -/
structure Fields where
  /-- The tag. -/
  tag : Option String := none
  /-- The attributes. -/
  attrs : Option Attributes := none
  /-- The styles, which may be null. -/
  styles : Option (Option Styles) := none
  /-- The text, which may be null. -/
  text : Option (Option String) := none
  /-- The children. -/
  children : Option (List Node) := none

/-- Whether a member has been read. -/
def Fields.has (fields : Fields) : Field → Bool
  | .tag => fields.tag.isSome
  | .attrs => fields.attrs.isSome
  | .styles => fields.styles.isSome
  | .text => fields.text.isSome
  | .children => fields.children.isSome

/-- The node, if tag and attributes have been read. -/
def Fields.node? (fields : Fields) : Option Node :=
  match fields.tag, fields.attrs with
  | some tag, some attrs =>
    some ⟨tag, attrs, fields.styles.join, fields.text.join, fields.children.getD []⟩
  | _, _ => none

/-- What is wanted unless the value is null. -/
def wantUnlessNull {α : Type} (want : Reading → Except Fault α) (value : Reading) :
    Except Fault (Option α) :=
  match value with
  | .null => .ok none
  | other => (want other).map some

/-- Stores the value of a member; `children` is what the value is as a list of
nodes. -/
def Fields.store (fields : Fields) (budget : Nat) (field : Field) (value : Reading)
    (children : Except Fault (List Node)) : Except Fault Fields :=
  match field with
  | .tag => value.wantString.map fun tag => { fields with tag := some tag }
  | .attrs =>
    (OrderedMap.ofReading budget value).map fun attrs => { fields with attrs := some attrs }
  | .styles =>
    (wantUnlessNull (OrderedMap.ofReading budget) value).map fun styles =>
      { fields with styles := some styles }
  | .text =>
    (wantUnlessNull Reading.wantString value).map fun text => { fields with text := some text }
  | .children => children.map fun nodes => { fields with children := some nodes }

/-- The node of the fields, once whatever holds them has ended well. -/
def Fields.finish (ending : Option Stop) (fields : Fields) : Except Fault Node :=
  match endingFault ending with
  | .error fault => .error fault
  | .ok () =>
    match fields.node? with
    | some node => .ok node
    | none => .error .mismatch

/-! ## §3. Nodes. -/

mutual

/-- The list of nodes that is wanted, with so many nestings left. -/
def wantNodes (budget : Nat) : Reading → Except Fault (List Node)
  | .array items ending =>
    match budget with
    | 0 => .error .malformed
    | budget + 1 =>
      match wantItems budget items, endingFault ending with
      | .error fault, _ => .error fault
      | .ok _, .error fault => .error fault
      | .ok nodes, .ok () => .ok nodes
  | other => .error other.refusal

/-- The nodes that the items are. -/
def wantItems (budget : Nat) : List Reading → Except Fault (List Node)
  | [] => .ok []
  | item :: rest =>
    match wantNode budget item with
    | .error fault => .error fault
    | .ok node => (wantItems budget rest).map (node :: ·)

/-- The node that is wanted, with so many nestings left. -/
def wantNode (budget : Nat) : Reading → Except Fault Node
  | .object members ending =>
    match budget with
    | 0 => .error .malformed
    | budget + 1 =>
      match wantMembers budget {} members with
      | .error fault => .error fault
      | .ok fields => fields.finish ending
  | .array items ending =>
    match budget with
    | 0 => .error .malformed
    | budget + 1 =>
      match wantInOrder budget {} Field.all items with
      | .error fault => .error fault
      | .ok fields => fields.finish ending
  | other => .error other.refusal

/-- The fields that members give. -/
def wantMembers (budget : Nat) (fields : Fields) :
    List (Option String × Reading) → Except Fault Fields
  | [] => .ok fields
  | (none, _) :: _ => .error .malformed
  | (some key, value) :: rest =>
    match Field.ofKey? key with
    | none =>
      match value.skip with
      | some fault => .error fault
      | none => wantMembers budget fields rest
    | some field =>
      if fields.has field then .error .mismatch
      else
        match fields.store budget field value (wantNodes budget value) with
        | .error fault => .error fault
        | .ok fields => wantMembers budget fields rest

/-- The fields that values in order give; there are no more values than fields. -/
def wantInOrder (budget : Nat) (fields : Fields) :
    List Field → List Reading → Except Fault Fields
  | _, [] => .ok fields
  | [], _ :: _ => .error .malformed
  | field :: others, item :: rest =>
    match fields.store budget field item (wantNodes budget item) with
    | .error fault => .error fault
    | .ok fields => wantInOrder budget fields others rest

end

/-! ## §4. Whole texts. -/

/-- How deep arrays and objects may be nested. -/
def deepestNesting : Nat := 127

/-- Reads a snapshot back. -/
def read (text : String) : Except Fault (List Node) :=
  (Json.read text).want (wantNodes deepestNesting)

end Snapshot

/-- Reads a JSON object of texts. -/
def OrderedMap.read (text : String) : Except Fault OrderedMap :=
  (Json.read text).want (OrderedMap.ofReading Snapshot.deepestNesting)

end MarkupShorthand
