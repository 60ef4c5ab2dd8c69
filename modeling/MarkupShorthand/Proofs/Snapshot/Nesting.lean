/-
  MarkupShorthand.Proofs.Snapshot.Nesting
  ───────────────────────────────────────
  **THE SNAPSHOT OF A FOREST IS WANTED WITH SUCCESS EXACTLY IF THE READER CAN
  NEST AS DEEP AS THE FOREST IS HIGH.**

      wantMembers_ofNode     the members of a node give its fields
      wantNode_snapshot      two nestings for every level from a node down
      wantNodes_snapshot     and one more for a list of nodes

  Every level of a forest takes two nestings, the list of nodes and the object
  of one, and the map of attributes takes one more: a forest of height `h` needs
  `2 * h + 1` of them.
-/
import MarkupShorthand.Proofs.Json.Assembly
import MarkupShorthand.Proofs.OrderedMap
import MarkupShorthand.Snapshot
import MarkupShorthand.Snapshot.Reading

namespace MarkupShorthand

open Json

/-! ## §1. How high a forest is. -/

namespace Node

mutual

/-- The number of nodes on the longest way down from this one. -/
def height : Node → Nat
  | ⟨_, _, _, _, children⟩ => 1 + heightAll children

/-- The number of nodes on the longest way down in a forest. -/
def heightAll : List Node → Nat
  | [] => 0
  | node :: rest => max node.height (heightAll rest)

end

end Node

/-! ## §2. Maps. -/

namespace OrderedMap

/-- As JSON a map is an object whose members are its entries in order. -/
theorem reading_toJson (map : OrderedMap) :
    map.toJson.reading
      = .object (map.entries.map fun (key, value) => (some key, .string (some value))) none := by
  have hmembers : ∀ entries : List (String × String),
      Value.memberReadings (entries.map fun (key, value) => (key, .string value))
        = entries.map fun (key, value) => (some key, .string (some value)) := by
    intro entries
    induction entries with
    | nil => rfl
    | cons entry entries ih =>
      rw [List.map_cons, List.map_cons, Value.memberReadings, ih]
      rfl
  unfold OrderedMap.toJson Value.reading
  rw [hmembers]

theorem wantMembers_strings (entries : List (String × String)) (map : OrderedMap) :
    map.wantMembers (entries.map fun (key, value) => (some key, .string (some value)))
      = .ok (map.setAll entries) := by
  induction entries generalizing map with
  | nil => rfl
  | cons entry entries ih => exact ih (map.set entry.1 entry.2)

/-- A map is read back if one more nesting is left. -/
theorem ofReading_toJson (budget : Nat) (map : OrderedMap) :
    OrderedMap.ofReading budget map.toJson.reading
      = if budget = 0 then .error .malformed else .ok map := by
  rw [reading_toJson, OrderedMap.ofReading, wantMembers_strings]
  show (if budget = 0 then _ else Except.ok (ofPairs map.entries)) = _
  rw [ofPairs_entries]

end OrderedMap

namespace Snapshot

/-! ## §3. The members of a node. -/

theorem ofKey?_key (field : Field) : Field.ofKey? field.key = some field := by
  cases field <;> decide

/-- **STEP**: a member that has not been read is stored. -/
theorem wantMembers_key {budget : Nat} {fields : Fields} {field : Field}
    (h : fields.has field = false) (value : Reading) (rest : List (Option String × Reading)) :
    wantMembers budget fields ((some field.key, value) :: rest)
      = match fields.store budget field value (wantNodes budget value) with
        | .error fault => .error fault
        | .ok stored => wantMembers budget stored rest := by
  rw [wantMembers, ofKey?_key]
  exact if_neg (Bool.eq_false_iff.mp h)

theorem memberReadings_append (members others : List (String × Value)) :
    Value.memberReadings (members ++ others)
      = Value.memberReadings members ++ Value.memberReadings others := by
  induction members with
  | nil => rfl
  | cons member members ih => exact congrArg _ ih

/-- Attributes are stored if one more nesting is left. -/
theorem store_attrs (fields : Fields) (budget : Nat) (attrs : Attributes)
    (children : Except Fault (List Node)) :
    fields.store budget .attrs attrs.toJson.reading children
      = if budget = 0 then .error .malformed else .ok { fields with attrs := some attrs } := by
  rw [Fields.store, OrderedMap.ofReading_toJson]
  split <;> rfl

/-- Styles that are there are stored, others are left out. -/
theorem wantMembers_styles {budget : Nat} (hbudget : ¬ budget = 0) {fields : Fields}
    (h : fields.styles = none) (styles : Option Styles)
    (rest : List (Option String × Reading)) :
    wantMembers budget fields (Value.memberReadings
        (styles.map fun held => ("styles", held.toJson)).toList ++ rest)
      = wantMembers budget { fields with styles := styles.map some } rest := by
  cases styles with
  | none =>
    show wantMembers budget fields rest = wantMembers budget { fields with styles := none } rest
    rw [← h]
  | some held =>
    have hfield : fields.has .styles = false := congrArg Option.isSome h
    have hstore : fields.store budget .styles held.toJson.reading
        (wantNodes budget held.toJson.reading)
          = .ok { fields with styles := some (some held) } := by
      show (Except.map some (OrderedMap.ofReading budget held.toJson.reading)).map _ = _
      rw [OrderedMap.ofReading_toJson, if_neg hbudget]
      rfl
    show wantMembers budget fields ((some Field.styles.key, held.toJson.reading) :: rest) = _
    rw [wantMembers_key hfield, hstore]
    rfl

/-- A text that is there is stored, another one is left out. -/
theorem wantMembers_text {budget : Nat} {fields : Fields} (h : fields.text = none)
    (text : Option String) (rest : List (Option String × Reading)) :
    wantMembers budget fields (Value.memberReadings
        (text.map fun held => ("text", Value.string held)).toList ++ rest)
      = wantMembers budget { fields with text := text.map some } rest := by
  cases text with
  | none =>
    show wantMembers budget fields rest = wantMembers budget { fields with text := none } rest
    rw [← h]
  | some held =>
    have hfield : fields.has .text = false := congrArg Option.isSome h
    show wantMembers budget fields ((some Field.text.key, .string (some held)) :: rest) = _
    rw [wantMembers_key hfield]
    rfl

/-- Children that are there are stored if they are read, none are left out. -/
theorem wantMembers_children {budget : Nat} {fields : Fields} (h : fields.children = none)
    {children : List Node}
    (hchildren : ∀ budget, wantNodes budget (Value.array (ofForest children)).reading
      = if 2 * Node.heightAll children + 1 ≤ budget then .ok children else .error .malformed)
    (hbudget : 1 ≤ budget) :
    wantMembers budget fields (Value.memberReadings
        (if children.isEmpty then [] else [("children", Value.array (ofForest children))]))
      = if 2 * Node.heightAll children + 1 ≤ budget then
          .ok { fields with children := if children.isEmpty then none else some children }
        else .error .malformed := by
  cases children with
  | nil =>
    rw [if_pos (show 2 * Node.heightAll [] + 1 ≤ budget from hbudget)]
    show Except.ok fields = Except.ok { fields with children := none }
    rw [← h]
  | cons node rest =>
    have hfield : fields.has .children = false := congrArg Option.isSome h
    show wantMembers budget fields
      [(some Field.children.key, (Value.array (ofForest (node :: rest))).reading)] = _
    rw [wantMembers_key hfield, hchildren]
    by_cases hheight : 2 * Node.heightAll (node :: rest) + 1 ≤ budget
    · rw [if_pos hheight, if_pos hheight]
      rfl
    · rw [if_neg hheight, if_neg hheight]
      rfl

/-! ## §4. Nodes. -/

/-- The fields of a node, as its snapshot gives them. -/
def Fields.ofNode (node : Node) : Fields where
  tag := some node.tag
  attrs := some node.attrs
  styles := node.styles.map some
  text := node.text.map some
  children := if node.children.isEmpty then none else some node.children

theorem Fields.node?_ofNode (node : Node) : (Fields.ofNode node).node? = some node := by
  obtain ⟨tag, attrs, styles, text, children⟩ := node
  show some (Node.mk tag attrs (styles.map some).join (text.map some).join _) = _
  cases styles <;> cases text <;> cases children <;> rfl

theorem Fields.finish_of_node? {fields : Fields} {node : Node} (h : fields.node? = some node) :
    fields.finish none = .ok node := by
  unfold Fields.finish
  simp only [endingFault, h]

/-- The node whose fields are in an object that ends well. -/
theorem wantNode_of_members {budget : Nat} {members : List (Option String × Reading)} {node : Node}
    {inBudget : Prop} [Decidable inBudget]
    (h : wantMembers budget {} members
      = if inBudget then .ok (Fields.ofNode node) else .error .malformed) :
    wantNode (budget + 1) (.object members none)
      = if inBudget then .ok node else .error .malformed := by
  rw [wantNode, h]
  by_cases hin : inBudget
  · rw [if_pos hin, if_pos hin]
    exact Fields.finish_of_node? (Fields.node?_ofNode node)
  · rw [if_neg hin, if_neg hin]

/-- The list of the nodes that are the items of an array that ends well. -/
theorem wantNodes_of_items {nodes : List Node}
    (h : ∀ budget, wantItems budget (Value.readings (ofForest nodes))
      = if 2 * Node.heightAll nodes ≤ budget then .ok nodes else .error .malformed)
    (budget : Nat) :
    wantNodes budget (Value.array (ofForest nodes)).reading
      = if 2 * Node.heightAll nodes + 1 ≤ budget then .ok nodes else .error .malformed := by
  rw [Value.reading]
  cases budget with
  | zero =>
    rw [if_neg (Nat.not_succ_le_zero _), wantNodes]
  | succ budget =>
    rw [wantNodes, h]
    by_cases hheight : 2 * Node.heightAll nodes ≤ budget
    · rw [if_pos hheight, if_pos (Nat.succ_le_succ hheight)]
      rfl
    · rw [if_neg hheight, if_neg (fun h => hheight (Nat.le_of_succ_le_succ h))]

/-- The members of a node give its fields, if its children are read. -/
theorem wantMembers_ofNode {tag : String} {attrs : Attributes} {styles : Option Styles}
    {text : Option String} {children : List Node}
    (hchildren : ∀ budget, wantNodes budget (Value.array (ofForest children)).reading
      = if 2 * Node.heightAll children + 1 ≤ budget then .ok children else .error .malformed)
    (budget : Nat) :
    wantMembers budget {} (Value.memberReadings
        (("tag", .string tag) :: ("attrs", attrs.toJson) ::
          ((styles.map fun held => ("styles", held.toJson)).toList ++
            (text.map fun held => ("text", Value.string held)).toList ++
            if children.isEmpty then [] else [("children", .array (ofForest children))])))
      = if 2 * Node.heightAll children + 1 ≤ budget then
          .ok (Fields.ofNode ⟨tag, attrs, styles, text, children⟩)
        else .error .malformed := by
  have htag : ∀ rest, wantMembers budget {} ((some Field.tag.key, .string (some tag)) :: rest)
      = wantMembers budget { tag := some tag } rest := fun rest => wantMembers_key rfl _ rest
  show wantMembers budget {} ((some Field.tag.key, .string (some tag)) ::
    (some Field.attrs.key, attrs.toJson.reading) :: Value.memberReadings _) = _
  rw [htag, wantMembers_key rfl, store_attrs]
  cases budget with
  | zero => rw [if_pos rfl, if_neg (Nat.not_succ_le_zero _)]
  | succ budget =>
    rw [if_neg (Nat.succ_ne_zero budget), List.append_assoc, memberReadings_append,
      memberReadings_append]
    show wantMembers (budget + 1) { tag := some tag, attrs := some attrs } _ = _
    rw [wantMembers_styles (Nat.succ_ne_zero budget) rfl, wantMembers_text rfl,
      wantMembers_children rfl hchildren (Nat.succ_le_succ (Nat.zero_le budget))]
    rfl

mutual

/-- **STEP**: a node is read back exactly if two nestings are left for every level
from it down. -/
theorem wantNode_snapshot : ∀ (node : Node) (budget : Nat),
    wantNode budget (ofNode node).reading
      = if 2 * node.height ≤ budget then .ok node else .error .malformed
  | ⟨tag, attrs, styles, text, children⟩, 0 => by
    have hheight : ¬ 2 * Node.height ⟨tag, attrs, styles, text, children⟩ ≤ 0 := by
      unfold Node.height
      omega
    rw [if_neg hheight, ofNode, Value.reading, wantNode]
  | ⟨tag, attrs, styles, text, children⟩, budget + 1 => by
    have hheight : 2 * Node.height ⟨tag, attrs, styles, text, children⟩ ≤ budget + 1
        ↔ 2 * Node.heightAll children + 1 ≤ budget := by
      unfold Node.height
      omega
    simp only [hheight]
    rw [ofNode, Value.reading]
    exact wantNode_of_members
      (wantMembers_ofNode (wantNodes_of_items (wantItems_snapshot children)) budget)

/-- **RUN**: nodes one after the other are read back exactly if all of them are. -/
theorem wantItems_snapshot : ∀ (nodes : List Node) (budget : Nat),
    wantItems budget (Value.readings (ofForest nodes))
      = if 2 * Node.heightAll nodes ≤ budget then .ok nodes else .error .malformed
  | [], budget => (if_pos (Nat.zero_le budget)).symm
  | node :: rest, budget => by
    have hheight : 2 * Node.heightAll (node :: rest) ≤ budget
        ↔ 2 * node.height ≤ budget ∧ 2 * Node.heightAll rest ≤ budget := by
      rw [Node.heightAll]
      omega
    rw [ofForest, Value.readings, wantItems, wantNode_snapshot node, wantItems_snapshot rest]
    simp only [hheight]
    by_cases hnode : 2 * node.height ≤ budget
    · by_cases hrest : 2 * Node.heightAll rest ≤ budget
      · rw [if_pos hnode, if_pos hrest, if_pos ⟨hnode, hrest⟩]
        rfl
      · rw [if_pos hnode, if_neg hrest, if_neg (fun h => hrest h.2)]
        rfl
    · have hboth : ¬ (2 * node.height ≤ budget ∧ 2 * Node.heightAll rest ≤ budget) :=
        fun h => hnode h.1
      rw [if_neg hnode, if_neg hboth]

end

/-- **THE SNAPSHOT OF A FOREST IS READ BACK EXACTLY IF IT IS WITHIN THE BUDGET.** -/
theorem wantNodes_snapshot (forest : List Node) (budget : Nat) :
    wantNodes budget (Value.array (ofForest forest)).reading
      = if 2 * Node.heightAll forest + 1 ≤ budget then .ok forest else .error .malformed :=
  wantNodes_of_items (wantItems_snapshot forest) budget

end Snapshot

end MarkupShorthand
