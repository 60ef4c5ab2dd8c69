/-
  MarkupShorthand.Proofs.Forest.Planting
  ──────────────────────────────────────
  **ONE PASS FROM THE LEFT WITH OPEN ELEMENTS IS ONE FOLD FROM THE RIGHT
  WITHOUT ANY.**

  Read from the right, nesting needs no memory: the trees that begin to the
  right of a node have depths that never increase, and the node takes those in
  front that are deeper than itself (`attach`).  The pass from the left moves a
  node into its parent long after it was opened; the fold knows all children of
  a node at once, which is what inductions over the nodes want.

  The two agree because of what `Nesting.restore` says of the open elements:
  each still has a claim on the trees to its right, the innermost first.

      Nesting.Descending     the open elements get shallower outwards
      restore_closeTo        closing elements does not change the claim
      nest_eq_plant          so the pass ends with the fold's forest
-/
import MarkupShorthand.Forest

namespace MarkupShorthand.Forest

/-! ## §1. The fold. -/

/-- A tree and the depth that its root was given. -/
abbrev Planted := Nat × Node

/-- Puts a node in front of the trees to its right: the deeper ones directly
behind it become its children. -/
def attach (item : Node × Nat) (right : List Planted) : List Planted :=
  let deeper := right.takeWhile fun tree => item.2 < tree.1
  let others := right.dropWhile fun tree => item.2 < tree.1
  (item.2, { item.1 with children := item.1.children ++ deeper.map (·.2) }) :: others

/-- The trees that the nodes make, each with the depth of its root. -/
def plant (items : List (Node × Nat)) : List Planted :=
  items.foldr attach []

theorem plant_cons (item : Node × Nat) (items : List (Node × Nat)) :
    plant (item :: items) = attach item (plant items) := rfl

/-! ## §2. Depths never increase from one tree to the next. -/

/-- The depths of the roots never increase from left to right. -/
def Falling (trees : List Planted) : Prop :=
  trees.Pairwise fun tree later => later.1 ≤ tree.1

/-- Behind the deeper trees in front, no tree is deeper. -/
theorem le_of_mem_dropWhile {trees : List Planted} (h : Falling trees) (depth : Nat) :
    ∀ tree ∈ trees.dropWhile (fun tree => depth < tree.1), tree.1 ≤ depth := by
  induction trees with
  | nil => simp
  | cons first trees ih =>
    obtain ⟨hfirst, htrees⟩ := List.pairwise_cons.mp h
    by_cases hdeeper : depth < first.1
    · -- the first tree is dropped, the others are no deeper than it
      rw [List.dropWhile_cons_of_pos (by simpa using hdeeper)]
      exact ih htrees
    · -- the first tree stays, and no other is deeper
      rw [List.dropWhile_cons_of_neg (by simpa using hdeeper)]
      intro tree htree
      rcases List.mem_cons.mp htree with rfl | htree
      · omega
      · have := hfirst tree htree
        omega

theorem falling_attach (item : Node × Nat) {right : List Planted} (h : Falling right) :
    Falling (attach item right) :=
  List.pairwise_cons.mpr
    ⟨le_of_mem_dropWhile h item.2, h.sublist (List.dropWhile_sublist _)⟩

theorem falling_plant (items : List (Node × Nat)) : Falling (plant items) := by
  induction items with
  | nil => exact List.Pairwise.nil
  | cons item items ih => exact falling_attach item ih

/-- No tree is deeper than the first node was. -/
theorem le_of_mem_plant_cons (item : Node × Nat) (items : List (Node × Nat)) :
    ∀ tree ∈ plant (item :: items), tree.1 ≤ item.2 := by
  intro tree htree
  rcases List.mem_cons.mp htree with rfl | htree
  · exact Nat.le_refl _
  · exact le_of_mem_dropWhile (falling_plant items) item.2 tree htree

/-! ## §3. What an open element has a claim on. -/

/-- An open element takes the deeper trees directly behind it. -/
def OpenNode.claim (right : List Planted) (inner : OpenNode) : List Planted :=
  attach (inner.node, inner.depth) right

/-- The forest that the elements make when `right` are the trees to their
right. -/
def Nesting.restore (nesting : Nesting) (right : List Planted) : List Node :=
  nesting.finished ++ (nesting.opened.foldl OpenNode.claim right).map (·.2)

/-- The open elements get shallower from the innermost outwards. -/
def Nesting.Descending (nesting : Nesting) : Prop :=
  nesting.opened.Pairwise fun inner outer => outer.depth < inner.depth

/-- Trees that are deeper than an element can be given to it before the others. -/
theorem claim_deeper (inner : OpenNode) {deeper : List Planted}
    (h : ∀ tree ∈ deeper, inner.depth < tree.1) (right : List Planted) :
    inner.claim (deeper ++ right) = (inner.take (deeper.map (·.2))).claim right := by
  have hall : ∀ tree ∈ deeper, decide (inner.depth < tree.1) = true :=
    fun tree htree => decide_eq_true (h tree htree)
  -- the trees in front are all taken, so both sides split at the same place
  unfold OpenNode.claim attach
  simp only [List.takeWhile_append_of_pos hall, List.dropWhile_append_of_pos hall,
    List.map_append, OpenNode.take, List.append_assoc]
  rfl

/-- Trees that all have one depth can be given to it before the others. -/
theorem claim_append (inner : OpenNode) (closed : List Node) {depth : Nat}
    (h : inner.depth < depth) (right : List Planted) :
    inner.claim (closed.map (fun node => (depth, node)) ++ right)
      = (inner.take closed).claim right := by
  have hall : ∀ tree ∈ closed.map (fun node => (depth, node)), inner.depth < tree.1 := by
    intro tree htree
    obtain ⟨node, -, rfl⟩ := List.mem_map.mp htree
    exact h
  have hnodes : (closed.map fun node => (depth, node)).map (·.2) = closed := by
    simp [Function.comp_def]
  rw [claim_deeper inner hall, hnodes]

/-- An element that is not shallower than what follows takes nothing. -/
theorem claim_of_le (inner : OpenNode) {right : List Planted}
    (h : ∀ tree ∈ right, tree.1 ≤ inner.depth) :
    inner.claim right = (inner.depth, inner.node) :: right := by
  have hnone : right.takeWhile (fun tree => inner.depth < tree.1) = []
      ∧ right.dropWhile (fun tree => inner.depth < tree.1) = right := by
    cases right with
    | nil => exact ⟨rfl, rfl⟩
    | cons tree right =>
      have htree : ¬ inner.depth < tree.1 := Nat.not_lt.mpr (h tree List.mem_cons_self)
      exact ⟨List.takeWhile_cons_of_neg (by simpa using htree),
        List.dropWhile_cons_of_neg (by simpa using htree)⟩
  obtain ⟨⟨tag, attrs, styles, text, children⟩, depth⟩ := inner
  simp only [OpenNode.claim, attach, hnone.1, hnone.2, List.map_nil, List.append_nil]

/-! ## §4. Closing. -/

/-- Closing moves trees into the elements that have a claim on them. -/
theorem restore_closeOnto (depth : Nat) (finished : List Node) {right : List Planted}
    (hright : ∀ tree ∈ right, tree.1 ≤ depth) :
    ∀ (opened : List OpenNode) (closed : List Node) (level : Nat), depth ≤ level →
      opened.Pairwise (fun inner outer => outer.depth < inner.depth) →
      (∀ inner ∈ opened, inner.depth < level) →
      (Nesting.closeOnto depth finished closed opened).restore right
        = finished ++ (opened.foldl OpenNode.claim
            (closed.map (fun node => (level, node)) ++ right)).map (·.2)
  | [], closed, level, _, _, _ => by
    simp [Nesting.closeOnto, Nesting.restore, Function.comp_def]
  | inner :: outer, closed, level, hlevel, hopened, hinner => by
    obtain ⟨houter, hopened⟩ := List.pairwise_cons.mp hopened
    have hclaim := claim_append inner closed (hinner inner List.mem_cons_self) right
    rw [List.foldl_cons, hclaim]
    by_cases hclose : depth ≤ inner.depth
    · -- the element closes: nothing to the right is deeper, so it takes no more
      have hnone : (inner.take closed).claim right
          = (inner.depth, (inner.take closed).node) :: right :=
        claim_of_le (inner.take closed)
          (fun tree htree => Nat.le_trans (hright tree htree) hclose)
      have ih := restore_closeOnto depth finished hright outer [(inner.take closed).node]
        inner.depth hclose hopened houter
      rw [Nesting.closeOnto, if_pos hclose, ih, hnone]
      rfl
    · -- the element stays open and keeps its claim
      rw [Nesting.closeOnto, if_neg hclose]
      rfl

theorem restore_closeTo {nesting : Nesting} (h : nesting.Descending) {depth : Nat}
    {right : List Planted} (hright : ∀ tree ∈ right, tree.1 ≤ depth) :
    (nesting.closeTo depth).restore right = nesting.restore right := by
  -- nothing was closed yet: any level above the open elements will do
  have hlevel : ∃ level, depth ≤ level ∧ ∀ inner ∈ nesting.opened, inner.depth < level := by
    cases hopened : nesting.opened with
    | nil => exact ⟨depth, Nat.le_refl _, by simp⟩
    | cons inner outer =>
      unfold Nesting.Descending at h
      rw [hopened] at h
      refine ⟨max depth (inner.depth + 1), Nat.le_max_left _ _, ?_⟩
      intro other hother
      rcases List.mem_cons.mp hother with rfl | hother
      · omega
      · have := (List.pairwise_cons.mp h).1 other hother
        omega
  obtain ⟨level, hle, hlt⟩ := hlevel
  exact restore_closeOnto depth nesting.finished hright nesting.opened [] level hle h hlt

/-- After closing, what is open was open and is shallower. -/
theorem opened_closeOnto (depth : Nat) (finished : List Node) :
    ∀ (opened : List OpenNode) (closed : List Node),
      opened.Pairwise (fun inner outer => outer.depth < inner.depth) →
      (Nesting.closeOnto depth finished closed opened).Descending
        ∧ ∀ inner ∈ (Nesting.closeOnto depth finished closed opened).opened, inner.depth < depth
  | [], closed, _ => by
    simp [Nesting.closeOnto, Nesting.Descending]
  | inner :: outer, closed, hopened => by
    obtain ⟨houter, hrest⟩ := List.pairwise_cons.mp hopened
    by_cases hclose : depth ≤ inner.depth
    · rw [Nesting.closeOnto, if_pos hclose]
      exact opened_closeOnto depth finished outer _ hrest
    · rw [Nesting.closeOnto, if_neg hclose]
      refine ⟨List.pairwise_cons.mpr ⟨houter, hrest⟩, ?_⟩
      intro other hother
      rcases List.mem_cons.mp hother with rfl | hother
      · exact Nat.not_le.mp hclose
      · have := houter other hother
        omega

/-! ## §5. One node, and the whole run. -/

/-- **STEP**: reading a node keeps the order of the open elements. -/
theorem descending_add {nesting : Nesting} (h : nesting.Descending) (item : Node × Nat) :
    (nesting.add item).Descending := by
  obtain ⟨hdescending, hshallower⟩ :=
    opened_closeOnto item.2 nesting.finished nesting.opened [] h
  exact List.pairwise_cons.mpr ⟨hshallower, hdescending⟩

/-- **STEP**: reading a node hands the claim on the trees to its right on. -/
theorem restore_add {nesting : Nesting} (h : nesting.Descending) (item : Node × Nat)
    (items : List (Node × Nat)) :
    (nesting.add item).restore (plant items) = nesting.restore (plant (item :: items)) :=
  restore_closeTo h (le_of_mem_plant_cons item items)

/-- At the end everything is closed. -/
theorem finished_closeTo_zero {nesting : Nesting} (h : nesting.Descending) :
    (nesting.closeTo 0).finished = nesting.restore [] := by
  have hnone : (nesting.closeTo 0).opened = [] := by
    rw [List.eq_nil_iff_forall_not_mem]
    intro inner hinner
    -- what stays open is shallower than 0
    have hshallower := (opened_closeOnto 0 nesting.finished nesting.opened [] h).2 inner hinner
    exact Nat.not_lt_zero inner.depth hshallower
  rw [← restore_closeTo h (show ∀ tree ∈ ([] : List Planted), tree.1 ≤ 0 by simp)]
  simp [Nesting.restore, hnone]

/-- **RUN**: reading the nodes and closing everything restores the forest. -/
theorem finished_foldl_add :
    ∀ (items : List (Node × Nat)) {nesting : Nesting}, nesting.Descending →
      ((items.foldl Nesting.add nesting).closeTo 0).finished = nesting.restore (plant items)
  | [], _, h => finished_closeTo_zero h
  | item :: items, nesting, h => by
    rw [List.foldl_cons, finished_foldl_add items (descending_add h item), restore_add h]

/-- **THE PASS FROM THE LEFT ENDS WITH THE FOREST OF THE FOLD FROM THE RIGHT.** -/
theorem nest_eq_plant (items : List (Node × Nat)) : nest items = (plant items).map (·.2) := by
  have hstart : Nesting.Descending {} := List.Pairwise.nil
  unfold nest
  rw [finished_foldl_add items hstart]
  rfl

end MarkupShorthand.Forest
