/-
  MarkupShorthand.Proofs.Forest.Depths
  ────────────────────────────────────
  **THE NODES OF A FOREST NEST TO IT AGAIN EXACTLY IF DEPTHS RISE FROM PARENT TO
  CHILD AND NEVER RISE FROM SIBLING TO SIBLING.**

  The nodes are listed parents before children and given any depths at all.  That
  the forest comes back needs nothing of levels: children may be several steps
  deeper, and siblings may come out step by step.

      plant_withDepths   depths that fit plant the forest, from the right
      fits_of_nest       a forest that comes back has found each parent as the
                         nearest shallower node, which says that the depths fit
      nest_withDepths    both together
-/
import MarkupShorthand.Proofs.Forest.Flattening

namespace MarkupShorthand.Forest

/-! ## §1. Listed nodes and their depths. -/

/-- A node in the list of a forest. -/
structure Listed where
  /-- The place of its parent, none for a root. -/
  above : Option Nat
  /-- The node. -/
  node : Node
  /-- Its own place. -/
  place : Nat

/-- The nodes of a forest that hangs below `above`, parents before children; the
first of them stands at `first`. -/
def listedFrom (above : Option Nat) (first : Nat) (nodes : List Node) : List Listed :=
  ((Node.placedAll above first nodes).zipIdx first).map fun (entry, place) =>
    ⟨entry.1, entry.2, place⟩

/-- The nodes of a forest, parents before children. -/
def listed (forest : List Node) : List Listed :=
  listedFrom none 0 forest

/-- Listed nodes without their children, each with the depth of its place. -/
def withDepths (depth : Nat → Nat) (entries : List Listed) : List (Node × Nat) :=
  entries.map fun entry => (entry.node.stripped, depth entry.place)

/-- Depths rise from parent to child and never rise from sibling to sibling. -/
structure Fits (depth : Nat → Nat) (entries : List Listed) : Prop where
  /-- A child is deeper than its parent. -/
  inward : ∀ entry ∈ entries, ∀ above, entry.above = some above →
    depth above < depth entry.place
  /-- Among the children of a node, and among the roots, none is deeper than one
  before it. -/
  onward : ∀ entry ∈ entries, ∀ later ∈ entries, later.above = entry.above →
    entry.place < later.place → depth later.place ≤ depth entry.place

theorem Fits.subset {depth : Nat → Nat} {entries others : List Listed} (h : Fits depth entries)
    (hsubset : others ⊆ entries) : Fits depth others where
  inward entry hentry := h.inward entry (hsubset hentry)
  onward entry hentry later hlater := h.onward entry (hsubset hentry) later (hsubset hlater)

theorem listedFrom_cons (above : Option Nat) (first : Nat) (node : Node) (rest : List Node) :
    listedFrom above first (node :: rest)
      = ⟨above, node, first⟩ ::
        (listedFrom (some first) (first + 1) node.children
          ++ listedFrom above (first + node.size) rest) := by
  obtain ⟨tag, attrs, styles, text, children⟩ := node
  unfold listedFrom
  rw [Node.placedAll, List.zipIdx_append, Node.length_placed, Node.placed, List.zipIdx_cons,
    List.cons_append, List.map_cons, List.map_append]

/-- A listed node stands where its place says. -/
theorem getElem?_of_mem_listed {forest : List Node} {entry : Listed} (h : entry ∈ listed forest) :
    (Node.placedAll none 0 forest)[entry.place]? = some (entry.above, entry.node) := by
  obtain ⟨⟨found, place⟩, hfound, rfl⟩ := List.mem_map.mp h
  exact List.mem_zipIdx_iff_getElem?.mp hfound

theorem getElem?_depths (depth : Nat → Nat) (forest : List Node) (place : Nat) :
    ((withDepths depth (listed forest)).map Prod.snd)[place]?
      = ((Node.placedAll none 0 forest)[place]?).map fun _ => depth place := by
  unfold withDepths listed listedFrom
  rw [List.map_map, List.map_map, List.getElem?_map, List.getElem?_zipIdx, Nat.zero_add,
    Option.map_map]
  rfl

/-- What stands at a place of the depths is the depth of the place. -/
theorem eq_of_getElem?_depths {depth : Nat → Nat} {forest : List Node} {place found : Nat}
    (h : ((withDepths depth (listed forest)).map Prod.snd)[place]? = some found) :
    found = depth place := by
  rw [getElem?_depths] at h
  obtain ⟨_, -, hfound⟩ := Option.map_eq_some_iff.mp h
  exact hfound.symm

/-! ## §2. Depths that fit. -/

/-- The trees of a forest whose first node stands at `first`, each with the depth
of its root. -/
def rootsFrom (depth : Nat → Nat) (first : Nat) : List Node → List Planted
  | [] => []
  | node :: rest => (depth first, node) :: rootsFrom depth (first + node.size) rest

theorem map_snd_rootsFrom (depth : Nat → Nat) :
    ∀ (nodes : List Node) (first : Nat), (rootsFrom depth first nodes).map Prod.snd = nodes
  | [], _ => rfl
  | node :: rest, first => by
    rw [rootsFrom, List.map_cons, map_snd_rootsFrom depth rest]

/-- The roots are the listed nodes with the parent of all. -/
theorem exists_listed_of_mem_rootsFrom {depth : Nat → Nat} (above : Option Nat) :
    ∀ {nodes : List Node} {first : Nat}, ∀ tree ∈ rootsFrom depth first nodes,
      ∃ entry ∈ listedFrom above first nodes,
        entry.above = above ∧ first ≤ entry.place ∧ depth entry.place = tree.1
  | node :: rest, first, tree, htree => by
    rw [listedFrom_cons]
    rcases List.mem_cons.mp htree with rfl | htree
    · exact ⟨_, List.mem_cons_self, rfl, Nat.le_refl first, rfl⟩
    · obtain ⟨entry, hentry, habove, hplace, hdepth⟩ :=
        exists_listed_of_mem_rootsFrom above tree htree
      exact ⟨entry, List.mem_cons_of_mem _ (List.mem_append_right _ hentry), habove,
        by omega, hdepth⟩

/-- A node takes all of the deeper trees behind it and nothing of the others. -/
theorem attach_deeper_append (node : Node) {depth : Nat} {inner right : List Planted}
    (hinner : ∀ tree ∈ inner, depth < tree.1) (hright : ∀ tree ∈ right, tree.1 ≤ depth) :
    attach (node, depth) (inner ++ right)
      = (depth, { node with children := node.children ++ inner.map Prod.snd }) :: right := by
  have hclaim := claim_deeper (OpenNode.mk node depth) hinner right
  exact hclaim.trans (claim_of_le _ hright)

/-- **RUN**: the nodes of a forest with depths that fit, in front of others, make the
trees of the forest in front of theirs, if none of theirs is deeper than a root. -/
theorem plant_withDepths (depth : Nat → Nat) :
    ∀ (nodes : List Node) (above : Option Nat) (first : Nat) (items : List (Node × Nat)),
      Fits depth (listedFrom above first nodes) →
      (∀ tree ∈ plant items, ∀ root ∈ rootsFrom depth first nodes, tree.1 ≤ root.1) →
      plant (withDepths depth (listedFrom above first nodes) ++ items)
        = rootsFrom depth first nodes ++ plant items
  | [], _, _, _, _, _ => rfl
  | ⟨tag, attrs, styles, text, children⟩ :: rest, above, first, items, hfits, hitems => by
    have hlist := listedFrom_cons above first ⟨tag, attrs, styles, text, children⟩ rest
    rw [hlist] at hfits
    have hinside : Fits depth (listedFrom (some first) (first + 1) children) :=
      hfits.subset (List.subset_cons_of_subset _ (List.subset_append_left _ _))
    have hbehind : Fits depth (listedFrom above (first + Node.size _) rest) :=
      hfits.subset (List.subset_cons_of_subset _ (List.subset_append_right _ _))
    have hrest := plant_withDepths depth rest above _ items hbehind
      fun tree htree root hroot => hitems tree htree root (List.mem_cons_of_mem _ hroot)
    -- no tree behind the node is deeper than it: they are its siblings and the others
    have hright : ∀ tree ∈ plant (withDepths depth (listedFrom above
        (first + Node.size ⟨tag, attrs, styles, text, children⟩) rest) ++ items),
        tree.1 ≤ depth first := by
      intro tree htree
      rw [hrest] at htree
      rcases List.mem_append.mp htree with htree | htree
      · obtain ⟨entry, hentry, habove, hplace, hdepth⟩ :=
          exists_listed_of_mem_rootsFrom above tree htree
        rw [← hdepth]
        refine hfits.onward _ List.mem_cons_self entry
          (List.mem_cons_of_mem _ (List.mem_append_right _ hentry)) habove ?_
        unfold Node.size at hplace
        show first < entry.place
        omega
      · exact hitems tree htree _ List.mem_cons_self
    -- its children are deeper
    have hinner : ∀ tree ∈ rootsFrom depth (first + 1) children, depth first < tree.1 := by
      intro tree htree
      obtain ⟨entry, hentry, habove, -, hdepth⟩ :=
        exists_listed_of_mem_rootsFrom (some first) tree htree
      rw [← hdepth]
      exact hfits.inward entry (List.mem_cons_of_mem _ (List.mem_append_left _ hentry)) first habove
    have hchildren := plant_withDepths depth children (some first) (first + 1) _ hinside
      fun tree htree root hroot =>
        Nat.le_trans (hright tree htree) (Nat.le_of_lt (hinner root hroot))
    have hnode := attach_deeper_append ⟨tag, attrs, styles, text, []⟩ hinner hright
    rw [map_snd_rootsFrom] at hnode
    rw [hlist]
    unfold withDepths at hchildren hrest hnode ⊢
    rw [List.map_cons, List.map_append, List.cons_append, List.append_assoc, plant_cons, hchildren]
    exact hnode.trans (congrArg _ hrest)

/-! ## §3. Forests that come back. -/

/-- A node of a forest that comes back hangs under the nearest shallower node. -/
theorem nearestShallower_of_nest {depth : Nat → Nat} {forest : List Node}
    (h : nest (withDepths depth (listed forest)) = forest) {entry : Listed}
    (hentry : entry ∈ listed forest) :
    NearestShallower ((withDepths depth (listed forest)).map Prod.snd) entry.place entry.above := by
  have hchildless : ∀ item ∈ withDepths depth (listed forest), item.1.children = [] := by
    intro item hitem
    obtain ⟨found, -, rfl⟩ := List.mem_map.mp hitem
    rfl
  have hparents := (placedAll_nest hchildless).2
  rw [h] at hparents
  refine nearestShallower_of_parentPlaces ?_
  rw [← hparents, List.getElem?_map, getElem?_of_mem_listed hentry]
  rfl

/-- The last smaller depth is that of an earlier node, which is shallower. -/
theorem lt_of_nearestShallower {depth : Nat → Nat} {forest : List Node} {place above : Nat}
    (h : NearestShallower ((withDepths depth (listed forest)).map Prod.snd) place (some above)) :
    above < place ∧ depth above < depth place := by
  obtain ⟨found, hfound, ⟨other, hother, hlt⟩, -⟩ := h
  rw [List.getElem?_take] at hother
  split at hother
  · next habove =>
    rw [eq_of_getElem?_depths hfound, eq_of_getElem?_depths hother] at hlt
    exact ⟨habove, hlt⟩
  · cases hother

/-- A forest that comes back has depths that fit. -/
theorem fits_of_nest {depth : Nat → Nat} {forest : List Node}
    (h : nest (withDepths depth (listed forest)) = forest) : Fits depth (listed forest) where
  inward entry hentry above habove := by
    have hnearest := nearestShallower_of_nest h hentry
    rw [habove] at hnearest
    exact (lt_of_nearestShallower hnearest).2
  onward entry hentry later hlater hsame hplace := by
    have hearlier := nearestShallower_of_nest h hentry
    obtain ⟨found, hfound, hlast⟩ := nearestShallower_of_nest h hlater
    rw [eq_of_getElem?_depths hfound] at hlast
    have hbefore : (((withDepths depth (listed forest)).map Prod.snd).take later.place)[entry.place]?
        = some (depth entry.place) := by
      rw [List.getElem?_take, if_pos hplace, getElem?_depths, getElem?_of_mem_listed hentry]
      rfl
    -- the earlier sibling stands behind the common parent, where nothing is shallower
    cases habove : later.above with
    | none =>
      rw [habove] at hlast
      exact hlast _ (List.mem_of_getElem? hbefore)
    | some above =>
      rw [← hsame, habove] at hearlier
      rw [habove] at hlast
      exact hlast.2 entry.place _ (lt_of_nearestShallower hearlier).1 hbefore

/-- **WHICH DEPTHS GIVE A FOREST BACK.**  The nodes of a forest, listed parents
before children and taken apart, with any depths, nest to the forest exactly if
every child is deeper than its parent and depths never increase along the children
of a node and along the roots.  The levels of the nodes are such depths. -/
theorem nest_withDepths (forest : List Node) :
    (∀ depth : Nat → Nat,
        nest (withDepths depth (listed forest)) = forest ↔ Fits depth (listed forest))
      ∧ nest ((Node.levelsAll 0 forest).map flat) = forest := by
  refine ⟨fun depth => ⟨fits_of_nest, fun hfits => ?_⟩, nest_flattened forest⟩
  have hplant := plant_withDepths depth forest none 0 [] hfits (by simp [plant])
  have hplanted : plant (withDepths depth (listed forest)) = rootsFrom depth 0 forest := by
    rw [List.append_nil] at hplant
    exact hplant.trans (List.append_nil _)
  rw [nest_eq_plant, hplanted]
  exact map_snd_rootsFrom depth forest 0

end MarkupShorthand.Forest
