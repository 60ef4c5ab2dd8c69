/-
  MarkupShorthand.Proofs.Snapshot.ReadingBack
  ───────────────────────────────────────────
  **A SNAPSHOT IS READ BACK AS THE FOREST IT WAS WRITTEN FROM, UP TO A HEIGHT OF
  SIXTY-THREE.**

      read_pretty, read_compact    what becomes of the two texts of a forest
      height_le_of_read            whatever was read can be read again
      pretty_inj                   the text shows a forest of any height
-/
import MarkupShorthand.Format.BuiltIn
import MarkupShorthand.Proofs.Snapshot.Budget

namespace MarkupShorthand.Snapshot

open Json

/-! ## §1. Whole texts. -/

/-- What the reader makes of a text that holds the snapshot of a forest. -/
theorem read_of_json {text : String} {forest : List Node}
    (h : Json.read text = ⟨(Value.array (ofForest forest)).reading, false⟩) :
    read text = if Node.heightAll forest ≤ 63 then .ok forest else .error .malformed := by
  have hheight : 2 * Node.heightAll forest + 1 ≤ deepestNesting ↔ Node.heightAll forest ≤ 63 := by
    unfold deepestNesting
    omega
  unfold read Text.want
  rw [h]
  simp only [wantNodes_snapshot, hheight]
  by_cases hlow : Node.heightAll forest ≤ 63
  · rw [if_pos hlow]
    rfl
  · rw [if_neg hlow]

theorem read_compact (forest : List Node) :
    read (compact forest)
      = if Node.heightAll forest ≤ 63 then .ok forest else .error .malformed :=
  read_of_json (Value.read_compact _)

theorem read_pretty (forest : List Node) :
    read (pretty forest)
      = if Node.heightAll forest ≤ 63 then .ok forest else .error .malformed :=
  read_of_json (Value.read_pretty _ 0)

/-- What was read from any text is low enough to be read again. -/
theorem height_le_of_read {text : String} {forest : List Node} (h : read text = .ok forest) :
    Node.heightAll forest ≤ 63 := by
  unfold read Text.want at h
  split at h
  · cases h
  · next nodes hnodes =>
    split at h
    · cases h
    · cases h
      have hheight := height_le_of_wantNodes _ _ _ hnodes
      unfold deepestNesting at hheight
      omega

/-- A snapshot shows the forest, however high it is. -/
theorem pretty_inj {forest other : List Node} (h : pretty forest = pretty other) :
    forest = other := by
  have hread := congrArg Json.read h
  unfold pretty at hread
  rw [Value.read_pretty, Value.read_pretty, Text.mk.injEq] at hread
  -- a reader with nestings enough for both takes the one value for both forests
  let budget := 2 * Node.heightAll forest + 2 * Node.heightAll other + 1
  have hwant := congrArg (wantNodes budget) hread.1
  rw [wantNodes_snapshot, wantNodes_snapshot, if_pos (by omega), if_pos (by omega)] at hwant
  exact Except.ok.inj hwant

/-- **A SNAPSHOT IS READ BACK** as the forest it was written from, pretty or
compact, if the forest has at most 63 levels; a higher one is refused.  The pretty
text shows a forest of any height.  Whatever was read from any text is written and
read again as it is. -/
theorem read_back :
    (∀ forest, ∃ text, Format.jsonDump.serialize forest = .ok text
      ∧ read text = (if Node.heightAll forest ≤ 63 then .ok forest else .error .malformed)
      ∧ read (compact forest)
        = if Node.heightAll forest ≤ 63 then .ok forest else .error .malformed)
    ∧ (∀ forest other : List Node,
      Format.jsonDump.serialize forest = Format.jsonDump.serialize other ↔ forest = other)
    ∧ (∀ text, (read text).bind (fun forest => read (compact forest)) = read text
      ∧ (read text).bind (fun forest => read (pretty forest)) = read text) := by
  refine ⟨fun forest => ⟨pretty forest, rfl, read_pretty forest, read_compact forest⟩,
    fun forest other => ⟨fun h => pretty_inj (Except.ok.inj h), congrArg _⟩, fun text => ?_⟩
  cases h : read text with
  | error _ => exact ⟨rfl, rfl⟩
  | ok forest =>
    have hheight := height_le_of_read h
    exact ⟨(read_compact forest).trans (if_pos hheight),
      (read_pretty forest).trans (if_pos hheight)⟩

/-! ## §2. A forest that is too high. -/

/-- So many nodes, each the only child of the one before. -/
def tower : Nat → List Node
  | 0 => []
  | levels + 1 => [{ tag := "p", children := tower levels }]

theorem heightAll_tower (levels : Nat) : Node.heightAll (tower levels) = levels := by
  induction levels with
  | zero => rfl
  | succ levels ih =>
    show max (1 + Node.heightAll (tower levels)) 0 = levels + 1
    rw [ih]
    omega

/-- One level more than the reader can nest. -/
theorem tower_not_read_back : ¬ read (pretty (tower 64)) = .ok (tower 64) := by
  rw [read_pretty, heightAll_tower]
  intro h
  cases h

end MarkupShorthand.Snapshot
