/-
  MarkupShorthand.Proofs.Forest.Flattening
  ────────────────────────────────────────
  **THE NODES OF A FOREST WITH THEIR LEVELS NEST TO THE FOREST AGAIN.**

      stripped_levelsAll_nest   a nested forest has the nodes that were nested
      nest_flattened            any forest is what its flattened nodes nest to
-/
import MarkupShorthand.Proofs.Forest.Parents

namespace MarkupShorthand

/-! ## §1. Nodes listed with levels and with parents. -/

mutual

/-- The nodes are the same whether they are listed with levels or with parents. -/
theorem Node.map_snd_placed (above : Option Nat) (place level : Nat) :
    ∀ node : Node, (node.placed above place).map Prod.snd = (node.levels level).map Prod.snd
  | ⟨tag, attrs, styles, text, children⟩ => by
    unfold Node.placed Node.levels
    rw [List.map_cons, List.map_cons, Node.map_snd_placedAll (some place) (place + 1) (level + 1)]

/-- ... of a forest. -/
theorem Node.map_snd_placedAll (above : Option Nat) (place level : Nat) :
    ∀ nodes : List Node,
      (Node.placedAll above place nodes).map Prod.snd = (Node.levelsAll level nodes).map Prod.snd
  | [] => rfl
  | node :: rest => by
    unfold Node.placedAll Node.levelsAll
    rw [List.map_append, List.map_append, Node.map_snd_placed above place level node,
      Node.map_snd_placedAll above (place + node.size) level rest]

end

mutual

/-- Each node is listed once. -/
theorem Node.length_placed (above : Option Nat) (place : Nat) :
    ∀ node : Node, (node.placed above place).length = node.size
  | ⟨tag, attrs, styles, text, children⟩ => by
    unfold Node.placed Node.size
    rw [List.length_cons, Node.length_placedAll (some place) (place + 1), Nat.add_comm]

/-- ... of a forest. -/
theorem Node.length_placedAll (above : Option Nat) (place : Nat) :
    ∀ nodes : List Node, (Node.placedAll above place nodes).length = Node.sizeAll nodes
  | [] => rfl
  | node :: rest => by
    unfold Node.placedAll Node.sizeAll
    rw [List.length_append, Node.length_placed above place node,
      Node.length_placedAll above (place + node.size) rest]

end

theorem Node.length_levels (level : Nat) (node : Node) :
    (node.levels level).length = node.size := by
  have hlist := congrArg List.length (Node.map_snd_placed none 0 level node)
  rw [List.length_map, List.length_map] at hlist
  rw [← hlist, Node.length_placed]

theorem Node.levelsAll_ne_nil (level : Nat) :
    ∀ {nodes : List Node}, nodes ≠ [] → Node.levelsAll level nodes ≠ []
  | [], h => absurd rfl h
  | ⟨_, _, _, _, _⟩ :: _, _ => by
    unfold Node.levelsAll Node.levels
    exact List.cons_ne_nil _ _

namespace Forest

/-- The nodes of a nested forest, taken apart, are those that were nested. -/
theorem stripped_levelsAll_nest {items : List (Node × Nat)}
    (hchildless : ∀ item ∈ items, item.1.children = []) :
    (Node.levelsAll 0 (nest items)).map (fun entry => entry.2.stripped)
      = items.map Prod.fst := by
  have hlist : (Node.levelsAll 0 (nest items)).map Prod.snd
      = (Node.placedAll none 0 (nest items)).map Prod.snd :=
    (Node.map_snd_placedAll none 0 0 (nest items)).symm
  -- listed with parents, the nodes are known to be the nested ones
  have hstripped := congrArg (List.map Node.stripped) hlist
  rw [List.map_map, List.map_map] at hstripped
  exact hstripped.trans (placedAll_nest hchildless).1

/-! ## §2. A flattened forest. -/

/-- A node of a forest as it is nested again: childless, at its level. -/
def flat (entry : Nat × Node) : Node × Nat :=
  (entry.2.stripped, entry.1)

mutual

/-- **STEP**: the nodes of a tree in front of others make the tree in front of
theirs, if none of theirs is deeper. -/
theorem plant_levels :
    ∀ (node : Node) (level : Nat) (items : List (Node × Nat)),
      (∀ tree ∈ plant items, tree.1 ≤ level) →
      plant ((node.levels level).map flat ++ items) = (level, node) :: plant items
  | ⟨tag, attrs, styles, text, children⟩, level, items, h => by
    have hchildren := plant_levelsAll children (level + 1) items
      fun tree htree => Nat.le_succ_of_le (h tree htree)
    have hroot : OpenNode.claim (plant items)
        ((OpenNode.mk ⟨tag, attrs, styles, text, []⟩ level).take children)
        = (level, ⟨tag, attrs, styles, text, children⟩) :: plant items :=
      claim_of_le _ h
    -- the children are deeper than the node, the trees behind are not
    unfold Node.levels
    rw [List.map_cons, List.cons_append, plant_cons, hchildren, ← hroot]
    exact claim_append (OpenNode.mk ⟨tag, attrs, styles, text, []⟩ level) children
      (Nat.lt_succ_self level) (plant items)

/-- **RUN**: ... the nodes of a forest. -/
theorem plant_levelsAll :
    ∀ (nodes : List Node) (level : Nat) (items : List (Node × Nat)),
      (∀ tree ∈ plant items, tree.1 ≤ level) →
      plant ((Node.levelsAll level nodes).map flat ++ items)
        = nodes.map (fun node => (level, node)) ++ plant items
  | [], _, _, _ => rfl
  | node :: rest, level, items, h => by
    have hrest := plant_levelsAll rest level items h
    have hroots : ∀ tree ∈ plant ((Node.levelsAll level rest).map flat ++ items),
        tree.1 ≤ level := by
      intro tree htree
      rw [hrest] at htree
      rcases List.mem_append.mp htree with htree | htree
      · obtain ⟨root, -, rfl⟩ := List.mem_map.mp htree
        exact Nat.le_refl level
      · exact h tree htree
    unfold Node.levelsAll
    rw [List.map_append, List.append_assoc, plant_levels node level _ hroots, hrest]
    rfl

end

/-- **A FOREST IS WHAT ITS FLATTENED NODES NEST TO.** -/
theorem nest_flattened (forest : List Node) :
    nest ((Node.levelsAll 0 forest).map flat) = forest := by
  have h := plant_levelsAll forest 0 [] (by simp [plant])
  rw [List.append_nil] at h
  rw [nest_eq_plant, h]
  simp [plant, Function.comp_def]

end Forest

end MarkupShorthand
