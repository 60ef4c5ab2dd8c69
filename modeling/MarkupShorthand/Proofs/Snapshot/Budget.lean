/-
  MarkupShorthand.Proofs.Snapshot.Budget
  ──────────────────────────────────────
  **WHATEVER IS READ IS NO HIGHER THAN THE READER CAN NEST.**

      Fields.Within             what has been read of a node leaves room for it
      Fields.Within.store       every member that is stored keeps it so
      height_le_of_wantNodes    hence the bound on whole lists of nodes

  The induction is on the value that is read, through its items and members; it
  makes no difference which members there are, in which order or of which kind.
-/
import MarkupShorthand.Proofs.Snapshot.Nesting

namespace MarkupShorthand.Snapshot

open Json

/-! ## §1. The fields of a node. -/

/-- What has been read of a node leaves room for it: a map takes one nesting,
children take two for each of their levels and one more. -/
structure Fields.Within (budget : Nat) (fields : Fields) : Prop where
  /-- There was a nesting left for the attributes. -/
  attrs : fields.attrs.isSome = true → 1 ≤ budget
  /-- The children are no higher than was left. -/
  children : ∀ nodes, fields.children = some nodes → 2 * Node.heightAll nodes + 1 ≤ budget

theorem Fields.within_nothing (budget : Nat) : Fields.Within budget {} where
  attrs h := by cases h
  children _ h := by cases h

theorem ofReading_budget {budget : Nat} {value : Reading} {map : OrderedMap}
    (h : OrderedMap.ofReading budget value = .ok map) : 1 ≤ budget := by
  cases value with
  | object members ending =>
    rw [OrderedMap.ofReading] at h
    split at h
    · cases h
    · omega
  | _ => cases h

theorem exists_of_map_ok {α β : Type} {f : α → β} {result : Except Fault α} {value : β}
    (h : result.map f = .ok value) : ∃ read, result = .ok read ∧ f read = value := by
  cases result with
  | error _ => cases h
  | ok read => exact ⟨read, rfl, Except.ok.inj h⟩

theorem Fields.Within.store {budget : Nat} {fields stored : Fields} (h : fields.Within budget)
    {field : Field} {value : Reading} {children : Except Fault (List Node)}
    (hchildren : ∀ nodes, children = .ok nodes → 2 * Node.heightAll nodes + 1 ≤ budget)
    (hstored : fields.store budget field value children = .ok stored) :
    stored.Within budget := by
  cases field with
  | tag =>
    obtain ⟨_, _, rfl⟩ := exists_of_map_ok hstored
    exact ⟨h.attrs, h.children⟩
  | attrs =>
    obtain ⟨_, hread, rfl⟩ := exists_of_map_ok hstored
    exact ⟨fun _ => ofReading_budget hread, h.children⟩
  | styles =>
    obtain ⟨_, _, rfl⟩ := exists_of_map_ok hstored
    exact ⟨h.attrs, h.children⟩
  | text =>
    obtain ⟨_, _, rfl⟩ := exists_of_map_ok hstored
    exact ⟨h.attrs, h.children⟩
  | children =>
    obtain ⟨nodes, hread, rfl⟩ := exists_of_map_ok hstored
    refine ⟨h.attrs, fun others hothers => ?_⟩
    rw [← Option.some.inj hothers]
    exact hchildren nodes hread

/-- The node of fields that are within the budget is within it as well. -/
theorem Fields.Within.finish {budget : Nat} {fields : Fields} (h : fields.Within budget)
    {ending : Option Stop} {node : Node} (hnode : fields.finish ending = .ok node) :
    2 * node.height ≤ budget + 1 := by
  unfold Fields.finish at hnode
  split at hnode
  · cases hnode
  obtain ⟨tag, attrs, styles, text, children⟩ := fields
  cases tag with
  | none => cases hnode
  | some tag =>
    cases attrs with
    | none => cases hnode
    | some attrs =>
      cases hnode
      have hattrs := h.attrs rfl
      cases children with
      | none =>
        show 2 * (1 + 0) ≤ budget + 1
        omega
      | some nodes =>
        have hnodes := h.children nodes rfl
        show 2 * (1 + Node.heightAll nodes) ≤ budget + 1
        omega

/-! ## §2. Nodes. -/

mutual

/-- **WHATEVER IS READ WAS WITHIN THE BUDGET.** -/
theorem height_le_of_wantNodes : ∀ (value : Reading) (budget : Nat) (nodes : List Node),
    wantNodes budget value = .ok nodes → 2 * Node.heightAll nodes + 1 ≤ budget
  | .array items ending, 0, nodes, h => by cases h
  | .array items ending, budget + 1, nodes, h => by
    rw [wantNodes] at h
    cases hitems : wantItems budget items with
    | error _ => rw [hitems] at h; cases h
    | ok read =>
      have hread := height_le_of_wantItems items budget read hitems
      rw [hitems] at h
      split at h
      · cases h
      · cases h
      · cases h
        rename_i heq
        cases heq
        omega

theorem height_le_of_wantItems : ∀ (items : List Reading) (budget : Nat) (nodes : List Node),
    wantItems budget items = .ok nodes → 2 * Node.heightAll nodes ≤ budget
  | [], budget, nodes, h => by
    cases h
    exact Nat.zero_le _
  | item :: rest, budget, nodes, h => by
    rw [wantItems] at h
    cases hnode : wantNode budget item with
    | error _ => rw [hnode] at h; cases h
    | ok node =>
      have hfirst := height_le_of_wantNode item budget node hnode
      rw [hnode] at h
      cases hrest : wantItems budget rest with
      | error _ => rw [hrest] at h; cases h
      | ok others =>
        have hothers := height_le_of_wantItems rest budget others hrest
        rw [hrest] at h
        cases h
        rw [Node.heightAll]
        omega

theorem height_le_of_wantNode : ∀ (value : Reading) (budget : Nat) (node : Node),
    wantNode budget value = .ok node → 2 * node.height ≤ budget
  | .object members ending, 0, node, h => by cases h
  | .object members ending, budget + 1, node, h => by
    rw [wantNode] at h
    cases hfields : wantMembers budget {} members with
    | error _ => rw [hfields] at h; cases h
    | ok fields =>
      rw [hfields] at h
      exact (within_of_wantMembers members budget {} fields (Fields.within_nothing budget)
        hfields).finish h
  | .array items ending, 0, node, h => by cases h
  | .array items ending, budget + 1, node, h => by
    rw [wantNode] at h
    cases hfields : wantInOrder budget {} Field.all items with
    | error _ => rw [hfields] at h; cases h
    | ok fields =>
      rw [hfields] at h
      exact (within_of_wantInOrder items budget {} Field.all fields
        (Fields.within_nothing budget) hfields).finish h

theorem within_of_wantMembers : ∀ (members : List (Option String × Reading)) (budget : Nat)
    (fields read : Fields), fields.Within budget →
    wantMembers budget fields members = .ok read → read.Within budget
  | [], budget, fields, read, hfields, h => by
    cases h
    exact hfields
  | (none, value) :: rest, budget, fields, read, hfields, h => by cases h
  | (some key, value) :: rest, budget, fields, read, hfields, h => by
    rw [wantMembers] at h
    split at h
    · split at h
      · cases h
      · exact within_of_wantMembers rest budget fields read hfields h
    split at h
    · cases h
    split at h
    · cases h
    · next stored hstored =>
      exact within_of_wantMembers rest budget stored read
        (hfields.store (height_le_of_wantNodes value budget) hstored) h

theorem within_of_wantInOrder : ∀ (items : List Reading) (budget : Nat) (fields : Fields)
    (names : List Field) (read : Fields), fields.Within budget →
    wantInOrder budget fields names items = .ok read → read.Within budget
  | [], budget, fields, names, read, hfields, h => by
    cases names <;> (cases h; exact hfields)
  | item :: rest, budget, fields, [], read, hfields, h => by cases h
  | item :: rest, budget, fields, name :: names, read, hfields, h => by
    rw [wantInOrder] at h
    split at h
    · cases h
    · next stored hstored =>
      exact within_of_wantInOrder rest budget stored names read
        (hfields.store (height_le_of_wantNodes item budget) hstored) h

end

end MarkupShorthand.Snapshot
