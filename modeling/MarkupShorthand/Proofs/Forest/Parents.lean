/-
  MarkupShorthand.Proofs.Forest.Parents
  ─────────────────────────────────────
  **NESTING LOSES NO NODE AND PUTS EACH UNDER THE NEAREST SHALLOWER ONE BEFORE
  IT.**

  A forest is listed parents before children, each node with the place of its
  parent in that list (`Node.placedAll`).  For a nested forest,

      the nodes of the list     are the nodes that were nested, in order
      the parent of a node      is the last one before it of smaller depth

  The trees of the fold are listed with a function from depths to parents: the
  roots have no parent yet, and which one they get depends on their depth only.
-/
import Mathlib.Data.List.TakeWhile
import MarkupShorthand.Proofs.Forest.Planting

namespace MarkupShorthand

/-! ## §1. The list of a forest. -/

mutual

/-- The node and all below it, parents before children, each with the place of
its parent.  The node itself stands at `place`. -/
def Node.placed (above : Option Nat) (place : Nat) : Node → List (Option Nat × Node)
  | ⟨tag, attrs, styles, text, children⟩ =>
    (above, ⟨tag, attrs, styles, text, children⟩) ::
      Node.placedAll (some place) (place + 1) children

/-- The nodes of a forest, parents before children, each with the place of its
parent. -/
def Node.placedAll (above : Option Nat) (place : Nat) : List Node → List (Option Nat × Node)
  | [] => []
  | node :: rest => node.placed above place ++ Node.placedAll above (place + node.size) rest

end

namespace Forest

/-- The place of the last of these depths that is smaller than `depth`. -/
def LastBelow (depths : List Nat) (depth : Nat) : Option Nat → Prop
  | none => ∀ other ∈ depths, depth ≤ other
  | some place =>
    (∃ other, depths[place]? = some other ∧ other < depth)
      ∧ ∀ (later : Nat) (other : Nat),
          place < later → depths[later]? = some other → depth ≤ other

/-- `above` is the last place before `place` of a smaller depth, none if there is
no such place. -/
def NearestShallower (depths : List Nat) (place : Nat) (above : Option Nat) : Prop :=
  ∃ depth, depths[place]? = some depth ∧ LastBelow (depths.take place) depth above

/-- Only the order of the depths counts. -/
theorem LastBelow.map {rescale : Nat → Nat} (hmono : ∀ {a b}, rescale a < rescale b ↔ a < b)
    {depths : List Nat} {depth : Nat} {above : Option Nat} (h : LastBelow depths depth above) :
    LastBelow (depths.map rescale) (rescale depth) above := by
  have hle : ∀ {a b}, a ≤ b → rescale a ≤ rescale b := by
    intro a b hab
    rw [← Nat.not_lt] at hab ⊢
    exact fun hlt => hab (hmono.mp hlt)
  cases above with
  | none =>
    intro other hother
    obtain ⟨before, hbefore, rfl⟩ := List.mem_map.mp hother
    exact hle (h before hbefore)
  | some place =>
    obtain ⟨⟨found, hfound, hlt⟩, hlater⟩ := h
    refine ⟨⟨rescale found, by rw [List.getElem?_map, hfound]; rfl, hmono.mpr hlt⟩, ?_⟩
    intro later other hbehind hother
    rw [List.getElem?_map] at hother
    obtain ⟨before, hbefore, rfl⟩ := Option.map_eq_some_iff.mp hother
    exact hle (hlater later before hbehind hbefore)

theorem NearestShallower.map {rescale : Nat → Nat}
    (hmono : ∀ {a b}, rescale a < rescale b ↔ a < b) {depths : List Nat} {place : Nat}
    {above : Option Nat} (h : NearestShallower depths place above) :
    NearestShallower (depths.map rescale) place above := by
  obtain ⟨depth, hdepth, hlast⟩ := h
  refine ⟨rescale depth, by rw [List.getElem?_map, hdepth]; rfl, ?_⟩
  rw [← List.map_take]
  exact hlast.map hmono

theorem NearestShallower.lt {depths : List Nat} {place outer : Nat}
    (h : NearestShallower depths place (some outer)) : outer < place := by
  obtain ⟨_, -, ⟨_, hfound, -⟩, -⟩ := h
  have houter := (List.getElem?_eq_some_iff.mp hfound).1
  rw [List.length_take] at houter
  omega

/-! ## §2. The list of planted trees. -/

/-- The list of the trees, the roots given parents by their depths. -/
def placedTrees (parent : Nat → Option Nat) (place : Nat) :
    List Planted → List (Option Nat × Node)
  | [] => []
  | tree :: rest =>
    tree.2.placed (parent tree.1) place ++ placedTrees parent (place + tree.2.size) rest

theorem placedTrees_append (parent : Nat → Option Nat) :
    ∀ (trees others : List Planted) (place : Nat),
      placedTrees parent place (trees ++ others)
        = placedTrees parent place trees
          ++ placedTrees parent (place + Node.sizeAll (trees.map (·.2))) others
  | [], _, _ => rfl
  | tree :: trees, others, place => by
    simp only [List.cons_append, placedTrees, List.map_cons, Node.sizeAll]
    rw [placedTrees_append parent trees others, List.append_assoc, Nat.add_assoc]

theorem placedTrees_congr {parent parent' : Nat → Option Nat} :
    ∀ {trees : List Planted} (place : Nat),
      (∀ tree ∈ trees, parent tree.1 = parent' tree.1) →
      placedTrees parent place trees = placedTrees parent' place trees
  | [], _, _ => rfl
  | tree :: trees, place, h => by
    unfold placedTrees
    rw [h tree List.mem_cons_self,
      placedTrees_congr _ fun other hother => h other (List.mem_cons_of_mem _ hother)]

theorem placedAll_eq_placedTrees (above : Option Nat) :
    ∀ (trees : List Planted) (place : Nat),
      Node.placedAll above place (trees.map (·.2)) = placedTrees (fun _ => above) place trees
  | [], _ => rfl
  | tree :: trees, place => by
    simp only [List.map_cons, Node.placedAll, placedTrees]
    rw [placedAll_eq_placedTrees above trees]

/-- **STEP**: a node in front comes first in the list, and the deeper roots that
were waiting for a parent have found it. -/
theorem placedTrees_attach (parent : Nat → Option Nat) (place : Nat) {item : Node × Nat}
    (hchildless : item.1.children = []) {right : List Planted} (h : Falling right) :
    ∃ node : Node, node.stripped = item.1 ∧
      placedTrees parent place (attach item right)
        = (parent item.2, node) ::
          placedTrees (fun depth => if item.2 < depth then some place else parent depth)
            (place + 1) right := by
  obtain ⟨⟨tag, attrs, styles, text, children⟩, depth⟩ := item
  have hnone : children = [] := hchildless
  subst hnone
  let deeper := right.takeWhile fun tree => depth < tree.1
  let others := right.dropWhile fun tree => depth < tree.1
  refine ⟨⟨tag, attrs, styles, text, deeper.map (·.2)⟩, rfl, ?_⟩
  -- the deeper trees have found their parent
  have hdeeper : placedTrees (fun _ => some place) (place + 1) deeper
      = placedTrees (fun d => if depth < d then some place else parent d) (place + 1) deeper := by
    refine placedTrees_congr _ ?_
    intro tree htree
    have hlt := List.mem_takeWhile_imp htree
    rw [if_pos (by simpa using hlt)]
  -- the other trees are no deeper, and look for theirs further to the left
  have hothers : ∀ start, placedTrees parent start others
      = placedTrees (fun d => if depth < d then some place else parent d) start others := by
    intro start
    refine placedTrees_congr _ ?_
    intro tree htree
    rw [if_neg (Nat.not_lt.mpr (le_of_mem_dropWhile h depth tree htree))]
  show (parent depth, _) :: Node.placedAll (some place) (place + 1) (deeper.map (·.2))
      ++ placedTrees parent (place + (1 + Node.sizeAll (deeper.map (·.2)))) others = _
  rw [placedAll_eq_placedTrees, hdeeper, hothers, List.cons_append, ← Nat.add_assoc,
    ← placedTrees_append, List.takeWhile_append_dropWhile]
  rfl

/-! ## §3. Which parents are found. -/

/-- The parents of nodes with these depths, the first of which stands at `place`
and knows the parents that `parent` offers. -/
def parentPlaces (parent : Nat → Option Nat) (place : Nat) : List Nat → List (Option Nat)
  | [] => []
  | depth :: depths =>
    parent depth ::
      parentPlaces (fun later => if depth < later then some place else parent later)
        (place + 1) depths

/-- **RUN**: the list of the trees that nodes make is the nodes in order, with
the parents that they find. -/
theorem placedTrees_plant :
    ∀ (items : List (Node × Nat)) (parent : Nat → Option Nat) (place : Nat),
      (∀ item ∈ items, item.1.children = []) →
      (placedTrees parent place (plant items)).map (fun entry => entry.2.stripped)
          = items.map Prod.fst
        ∧ (placedTrees parent place (plant items)).map Prod.fst
          = parentPlaces parent place (items.map Prod.snd)
  | [], _, _, _ => ⟨rfl, rfl⟩
  | item :: items, parent, place, hchildless => by
    obtain ⟨node, hnode, hlist⟩ := placedTrees_attach parent place
      (hchildless item List.mem_cons_self) (falling_plant items)
    obtain ⟨hnodes, hparents⟩ := placedTrees_plant items
      (fun depth => if item.2 < depth then some place else parent depth) (place + 1)
      fun other hother => hchildless other (List.mem_cons_of_mem _ hother)
    rw [plant_cons, hlist]
    constructor
    · rw [List.map_cons, List.map_cons, hnodes, hnode]
    · rw [List.map_cons, List.map_cons, hparents]
      rfl

/-- The list of a nested forest. -/
theorem placedAll_nest {items : List (Node × Nat)}
    (hchildless : ∀ item ∈ items, item.1.children = []) :
    (Node.placedAll none 0 (nest items)).map (fun entry => entry.2.stripped)
        = items.map Prod.fst
      ∧ (Node.placedAll none 0 (nest items)).map Prod.fst
        = parentPlaces (fun _ => none) 0 (items.map Prod.snd) := by
  rw [nest_eq_plant, placedAll_eq_placedTrees]
  exact placedTrees_plant items (fun _ => none) 0 hchildless

theorem length_parentPlaces :
    ∀ (depths : List Nat) (parent : Nat → Option Nat) (place : Nat),
      (parentPlaces parent place depths).length = depths.length
  | [], _, _ => rfl
  | depth :: depths, parent, place => by
    rw [parentPlaces, List.length_cons, length_parentPlaces depths, List.length_cons]

/-- One more depth: it is the last smaller one, or it changes nothing. -/
theorem LastBelow.concat {depths : List Nat} {depth : Nat} {above : Option Nat}
    (h : LastBelow depths depth above) (last : Nat) :
    LastBelow (depths ++ [last]) depth
      (if last < depth then some depths.length else above) := by
  by_cases hlast : last < depth
  · -- nothing stands behind the last place
    rw [if_pos hlast]
    refine ⟨⟨last, by simp, hlast⟩, ?_⟩
    intro later other hlater hother
    rw [List.getElem?_eq_none (by simp; omega)] at hother
    cases hother
  · rw [if_neg hlast]
    cases above with
    | none =>
      intro other hother
      rcases List.mem_append.mp hother with hother | hother
      · exact h other hother
      · rw [List.mem_singleton.mp hother]
        exact Nat.not_lt.mp hlast
    | some place =>
      obtain ⟨⟨found, hfound, hlt⟩, hlater⟩ := h
      have hplace : place < depths.length := (List.getElem?_eq_some_iff.mp hfound).1
      refine ⟨⟨found, by rw [List.getElem?_append_left hplace, hfound], hlt⟩, ?_⟩
      intro later other hbehind hother
      -- a later place is one of the old ones or the new one
      rcases Nat.lt_or_ge later depths.length with hin | hout
      · rw [List.getElem?_append_left hin] at hother
        exact hlater later other hbehind hother
      · rw [List.getElem?_append_right hout] at hother
        have hmem := List.mem_of_getElem? hother
        rw [List.mem_singleton.mp hmem]
        exact Nat.not_lt.mp hlast

/-- The parents that are found are the last smaller depths, if those on offer at
the beginning are the last smaller ones of the depths before. -/
theorem lastBelow_parentPlaces :
    ∀ (depths past : List Nat) (parent : Nat → Option Nat),
      (∀ depth, LastBelow past depth (parent depth)) →
      ∀ (place : Nat) (depth : Nat) (above : Option Nat), depths[place]? = some depth →
        (parentPlaces parent past.length depths)[place]? = some above →
        LastBelow (past ++ depths.take place) depth above
  | [], _, _, _, _, _, _, hdepth, _ => by simp at hdepth
  | first :: depths, past, parent, hoffer, 0, depth, above, hdepth, habove => by
    simp only [List.getElem?_cons_zero, Option.some.injEq] at hdepth
    simp only [parentPlaces, List.getElem?_cons_zero, Option.some.injEq] at habove
    rw [List.take_zero, List.append_nil, ← hdepth, ← habove]
    exact hoffer first
  | first :: depths, past, parent, hoffer, place + 1, depth, above, hdepth, habove => by
    rw [List.getElem?_cons_succ] at hdepth
    -- the first depth is past now, and what it offers is the last smaller one again
    rw [parentPlaces, List.getElem?_cons_succ,
      show past.length + 1 = (past ++ [first]).length by simp] at habove
    have hnext := lastBelow_parentPlaces depths (past ++ [first]) _
      (fun later => (hoffer later).concat first) place depth above hdepth habove
    rwa [List.append_assoc] at hnext

/-- Where no parent is on offer at the beginning, those that are found are the
nearest shallower ones. -/
theorem nearestShallower_of_parentPlaces {depths : List Nat} {place : Nat} {above : Option Nat}
    (h : (parentPlaces (fun _ => none) 0 depths)[place]? = some above) :
    NearestShallower depths place above := by
  have hplace : place < depths.length := by
    rw [← length_parentPlaces depths (fun _ => none) 0]
    exact (List.getElem?_eq_some_iff.mp h).1
  refine ⟨_, List.getElem?_eq_getElem hplace, ?_⟩
  exact lastBelow_parentPlaces depths [] (fun _ => none) (fun _ => by simp [LastBelow]) place _
    above (List.getElem?_eq_getElem hplace) h

/-- **NESTING LOSES NOTHING AND NESTS BY THE NEAREST SHALLOWER NODE.**  Listed
parents before children, the forest that childless nodes make is these nodes,
each once and in order; and the parent of a node is the last one before it that
has a smaller depth, none exactly if there is none. -/
theorem nest_nearest_shallower (items : List (Node × Nat))
    (hchildless : ∀ item ∈ items, item.1.children = []) :
    (Node.placedAll none 0 (nest items)).map (fun entry => entry.2.stripped)
        = items.map Prod.fst
      ∧ ∀ (place : Nat) (above : Option Nat),
          ((Node.placedAll none 0 (nest items)).map Prod.fst)[place]? = some above →
          NearestShallower (items.map Prod.snd) place above := by
  obtain ⟨hnodes, hparents⟩ := placedTrees_plant items (fun _ => none) 0 hchildless
  rw [nest_eq_plant, placedAll_eq_placedTrees]
  refine ⟨hnodes, ?_⟩
  intro place above habove
  have hlength : (parentPlaces (fun _ => none) 0 (items.map Prod.snd)).length
      = (items.map Prod.snd).length := by
    have hcount := congrArg List.length hnodes
    simp only [List.length_map] at hcount
    rw [← hparents, List.length_map, List.length_map, hcount]
  -- the two lists are equally long, so the node of the parent has a depth
  rw [hparents] at habove
  have hplace : place < (items.map Prod.snd).length := by
    rw [← hlength]
    exact (List.getElem?_eq_some_iff.mp habove).1
  refine ⟨_, List.getElem?_eq_getElem hplace, ?_⟩
  -- before the first node no parent is on offer, and none is shallower
  have hoffer : ∀ depth, LastBelow [] depth none := fun _ => by simp [LastBelow]
  exact lastBelow_parentPlaces (items.map Prod.snd) [] (fun _ => none) hoffer place _ above
    (List.getElem?_eq_getElem hplace) habove

/-- A first node that is not at depth 0, a jump of three levels and a way back to
a depth in between: the node that comes back is next to the one that jumped. -/
theorem nest_after_jump_and_dedent :
    let items : List (Node × Nat) :=
      [({ tag := "a" }, 1), ({ tag := "b" }, 0), ({ tag := "c" }, 3), ({ tag := "d" }, 1),
        ({ tag := "e" }, 2)]
    (∀ item ∈ items, item.1.children = [])
      ∧ (Node.placedAll none 0 (nest items)).map (fun entry => entry.2.stripped)
          = items.map Prod.fst
      ∧ NearestShallower [1, 0, 3, 1, 2] 0 none
      ∧ NearestShallower [1, 0, 3, 1, 2] 2 (some 1)
      ∧ NearestShallower [1, 0, 3, 1, 2] 3 (some 1)
      ∧ NearestShallower [1, 0, 3, 1, 2] 4 (some 3) := by
  intro items
  have hchildless : ∀ item ∈ items, item.1.children = [] := by simp [items]
  obtain ⟨hnodes, hparents⟩ := nest_nearest_shallower items hchildless
  exact ⟨hchildless, hnodes, hparents 0 none rfl, hparents 2 (some 1) rfl,
    hparents 3 (some 1) rfl, hparents 4 (some 3) rfl⟩

end Forest

end MarkupShorthand
