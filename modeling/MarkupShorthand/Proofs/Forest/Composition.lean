/-
  MarkupShorthand.Proofs.Forest.Composition
  ─────────────────────────────────────────
  **NODES BEHIND OTHERS MAKE A FOREST OF THEIR OWN IF THE FIRST OF THEM IS NOT
  DEEPER THAN ANY BEFORE; NODES BELOW A ROOT MAKE THE FOREST INSIDE IT.**

      nest_append    two runs of nodes, two forests side by side
      nest_deeper    all one level deeper, the same forest
      nest_below     a root and deeper nodes, the forest of these in the root

  All three are read off the fold from the right, where a node takes from the
  trees on its right and from nothing else.  In the first, the first node on the
  right is what keeps all others from the nodes on the left, however deep or
  shallow they are: no tree on the right is deeper than it.
-/
import Mathlib.Data.List.TakeWhile
import MarkupShorthand.Proofs.Forest.Planting

namespace MarkupShorthand.Forest

/-! ## §1. Side by side. -/

/-- A node takes nothing from trees that are not deeper than itself. -/
theorem attach_append {item : Node × Nat} {others : List Planted}
    (h : ∀ tree ∈ others, tree.1 ≤ item.2) (right : List Planted) :
    attach item (right ++ others) = attach item right ++ others := by
  have hsplit : (right ++ others).takeWhile (fun tree => item.2 < tree.1)
        = right.takeWhile (fun tree => item.2 < tree.1)
      ∧ (right ++ others).dropWhile (fun tree => item.2 < tree.1)
        = right.dropWhile (fun tree => item.2 < tree.1) ++ others := by
    induction right with
    | nil =>
      cases others with
      | nil => exact ⟨rfl, rfl⟩
      | cons tree others =>
        have htree : ¬ item.2 < tree.1 := Nat.not_lt.mpr (h tree List.mem_cons_self)
        simp [htree]
    | cons tree right ih =>
      -- the run that the node takes has ended, or it goes on in the same way
      by_cases htree : item.2 < tree.1
      · simp [htree, ih.1, ih.2]
      · simp [htree]
  unfold attach
  rw [hsplit.1, hsplit.2]
  rfl

theorem plant_append {others : List (Node × Nat)} :
    ∀ {items : List (Node × Nat)},
      (∀ item ∈ items, ∀ tree ∈ plant others, tree.1 ≤ item.2) →
      plant (items ++ others) = plant items ++ plant others
  | [], _ => rfl
  | item :: items, h => by
    have hrest := plant_append fun other hother => h other (List.mem_cons_of_mem item hother)
    rw [List.cons_append, plant_cons, hrest, attach_append (h item List.mem_cons_self), plant_cons]

/-- **SIDE BY SIDE**: behind nodes none of which is shallower than the first of
them, nodes make the forest that they make alone. -/
theorem nest_append {items others : List (Node × Nat)}
    (h : ∀ first, others.head? = some first → ∀ item ∈ items, first.2 ≤ item.2) :
    nest (items ++ others) = nest items ++ nest others := by
  have htrees : ∀ item ∈ items, ∀ tree ∈ plant others, tree.1 ≤ item.2 := by
    intro item hitem tree htree
    cases others with
    | nil => cases htree
    | cons first others =>
      exact Nat.le_trans (le_of_mem_plant_cons first others tree htree) (h first rfl item hitem)
  rw [nest_eq_plant, nest_eq_plant, nest_eq_plant, plant_append htrees, List.map_append]

/-! ## §2. Deeper. -/

/-- The node one level deeper. -/
def deeper (item : Node × Nat) : Node × Nat :=
  (item.1, item.2 + 1)

theorem plant_deeper (items : List (Node × Nat)) :
    plant (items.map deeper) = (plant items).map fun tree => (tree.1 + 1, tree.2) := by
  induction items with
  | nil => rfl
  | cons item items ih =>
    -- a node takes the same trees, because it is compared with them as before
    have hcompare : (fun tree : Planted => decide ((deeper item).2 < tree.1))
          ∘ (fun tree : Planted => (tree.1 + 1, tree.2))
        = fun tree : Planted => decide (item.2 < tree.1) := by
      funext tree
      exact decide_eq_decide.mpr Nat.add_lt_add_iff_right
    rw [List.map_cons, plant_cons, plant_cons, ih]
    unfold attach
    simp only [List.takeWhile_map, List.dropWhile_map, hcompare, List.map_map, List.map_cons]
    rfl

/-- **DEEPER**: all nodes one level deeper make the same forest. -/
theorem nest_deeper (items : List (Node × Nat)) : nest (items.map deeper) = nest items := by
  rw [nest_eq_plant, nest_eq_plant, plant_deeper, List.map_map]
  rfl

/-! ## §3. Below a root. -/

/-- The roots have the depths of some of the nodes. -/
theorem exists_item_of_mem_plant :
    ∀ {items : List (Node × Nat)}, ∀ tree ∈ plant items, ∃ item ∈ items, item.2 = tree.1
  | item :: items, tree, htree => by
    rcases List.mem_cons.mp htree with rfl | htree
    · exact ⟨item, List.mem_cons_self, rfl⟩
    · obtain ⟨other, hother, hdepth⟩ :=
        exists_item_of_mem_plant tree ((List.dropWhile_sublist _).subset htree)
      exact ⟨other, List.mem_cons_of_mem item hother, hdepth⟩

/-- **BELOW A ROOT**: the forest of nodes that are deeper than the one in front of
them is inside it. -/
theorem nest_below (root : Node) {depth : Nat} {items : List (Node × Nat)}
    (h : ∀ item ∈ items, depth < item.2) :
    nest ((root, depth) :: items)
      = [{ root with children := root.children ++ nest items }] := by
  -- the root takes all of the trees and leaves none behind it
  have hall : ∀ tree ∈ plant items, decide (depth < tree.1) = true := by
    intro tree htree
    obtain ⟨item, hitem, hdepth⟩ := exists_item_of_mem_plant tree htree
    exact decide_eq_true (hdepth ▸ h item hitem)
  rw [nest_eq_plant, nest_eq_plant, plant_cons]
  unfold attach
  simp only [List.takeWhile_eq_self_iff.mpr hall, List.dropWhile_eq_nil_iff.mpr hall]
  rfl

theorem nest_ne_nil {items : List (Node × Nat)} (h : items ≠ []) : nest items ≠ [] := by
  cases items with
  | nil => exact absurd rfl h
  | cons item items =>
    rw [nest_eq_plant, plant_cons]
    exact List.cons_ne_nil _ _

end MarkupShorthand.Forest
