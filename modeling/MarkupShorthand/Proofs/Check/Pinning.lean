/-
  MarkupShorthand.Proofs.Check.Pinning
  ────────────────────────────────────
  **THE CHECKS WRITTEN OFF A FOREST PASS ON THAT FOREST ALONE, AND FAIL AT THE FIRST
  NODE THAT DIFFERS.**

  The checks of a forest ask for the number of its roots, and of each node, parents
  before children, for everything that it is: tag, attributes, text, style block,
  number of children.  One difference escapes them: a style block that is expected
  to be there and empty may be missing.

      Decides            checks on one node say whether something holds of it
      Compares           checks on trees find the first node that differs, if one does
      checks_pin_down    and so do the checks of a forest, on any other forest
-/
import Mathlib.Data.List.Forall2
import MarkupShorthand.Check
import MarkupShorthand.Proofs.OrderedMap

namespace MarkupShorthand

/-! ## §1. The checks of a forest. -/

namespace Node

/-- The checks on the attributes of a node: their order, then each value. -/
def attributeChecks (node : Node) : List NodeCheck :=
  .attributeOrder node.attrs.keys ::
    node.attrs.entries.map fun entry => .attribute entry.1 entry.2

/-- The check on the text of a node. -/
def textCheck (node : Node) : NodeCheck :=
  match node.text with
  | none => .noText
  | some text => .text text

/-- The checks on the style block of a node: that there is none, or the order of the
properties and each value. -/
def styleChecks (node : Node) : List NodeCheck :=
  match node.styles with
  | none => [.noStyles]
  | some styles =>
    .styleOrder styles.keys :: styles.entries.map fun entry => .style entry.1 entry.2

/-- The checks on what a node is by itself. -/
def ownChecks (node : Node) : List NodeCheck :=
  .tag node.tag :: (node.attributeChecks ++ node.textCheck ::
    (node.styleChecks ++ [.childCount node.children.length]))

mutual

/-- The checks of a node: its own, then those of its children. -/
def checks : Node → List NodeCheck
  | ⟨tag, attrs, styles, text, children⟩ =>
    ownChecks ⟨tag, attrs, styles, text, children⟩ ++ childChecks 0 children

/-- The checks of children, the first of which has the number `index`. -/
def childChecks (index : Nat) : List Node → List NodeCheck
  | [] => []
  | node :: rest => .child index node.checks :: childChecks (index + 1) rest

end

/-- The checks of roots, the first of which has the number `index`. -/
def rootChecks (index : Nat) : List Node → List ForestCheck
  | [] => []
  | node :: rest => .root index node.checks :: rootChecks (index + 1) rest

/-- The checks of a forest: the number of its roots, then those of each root. -/
def forestChecks (forest : List Node) : List ForestCheck :=
  .count forest.length :: rootChecks 0 forest

/-! ## §2. What they ask for. -/

/-- A style block is the one that is expected, or it is missing where an empty one is. -/
def StylesFit (found expected : Option Styles) : Prop :=
  found = expected ∨ (found = none ∧ expected = some ∅)

/-- A node is by itself what is expected. -/
structure OwnFits (found expected : Node) : Prop where
  /-- The tag. -/
  tag : found.tag = expected.tag
  /-- The attributes in their order. -/
  attrs : found.attrs = expected.attrs
  /-- The text. -/
  text : found.text = expected.text
  /-- The style block in its order. -/
  styles : StylesFit found.styles expected.styles
  /-- The number of children. -/
  childCount : found.children.length = expected.children.length

mutual

/-- A node is what is expected, with all below it. -/
def Fits : Node → Node → Prop
  | ⟨tag, attrs, styles, text, children⟩, expected =>
    OwnFits ⟨tag, attrs, styles, text, children⟩ expected ∧ FitsAll children expected.children

/-- The trees of a forest are the expected ones, in order. -/
def FitsAll : List Node → List Node → Prop
  | [], expected => expected = []
  | _ :: _, [] => False
  | node :: rest, first :: expected => node.Fits first ∧ FitsAll rest expected

end

/-! ## §3. Nodes in document order. -/

mutual

/-- The node at a path and all below it, parents before children, each with its path. -/
def located (path : NodePath) : Node → List (NodePath × Node)
  | ⟨tag, attrs, styles, text, children⟩ =>
    (path, ⟨tag, attrs, styles, text, children⟩) :: locatedAll path.child 0 children

/-- The nodes of a forest, parents before children, each with its path; the path of
a root is made from its number, beginning with `index`. -/
def locatedAll (pathOf : Nat → NodePath) (index : Nat) : List Node → List (NodePath × Node)
  | [] => []
  | node :: rest => node.located (pathOf index) ++ locatedAll pathOf (index + 1) rest

end

/-- The nodes of a forest in document order, each with its path. -/
def inOrder (forest : List Node) : List (NodePath × Node) :=
  locatedAll .root 0 forest

end Node

/-- Two nodes stand at the same path and are the same by themselves. -/
def SameAt (found expected : NodePath × Node) : Prop :=
  found.1 = expected.1 ∧ found.2.OwnFits expected.2

/-- At this path stands the first node that is not by itself what is expected. -/
def FirstDifference (found expected : List (NodePath × Node)) (path : NodePath) : Prop :=
  ∃ before node after before' node' after',
    found = before ++ (path, node) :: after ∧ expected = before' ++ (path, node') :: after'
      ∧ List.Forall₂ SameAt before before' ∧ ¬ node.OwnFits node'

/-- A style block that fits has the properties that are expected, in order. -/
theorem Node.styleKeys_of_stylesFit {node : Node} {styles : Styles}
    (h : StylesFit node.styles (some styles)) : node.styleKeys = styles.keys := by
  unfold styleKeys
  rcases h with hsame | ⟨hnone, hempty⟩
  · rw [hsame]
  · rw [hnone, Option.some.inj hempty]
    rfl

/-! ## §4. Checks on one node. -/

/-- A result at a path says whether what was asked holds. -/
inductive Decides (path : NodePath) (asked : Prop) : Except CheckFailure Unit → Prop where
  /-- It holds. -/
  | ok (h : asked) : Decides path asked (.ok ())
  /-- It does not, which is reported there. -/
  | error (finding : Finding) (h : ¬ asked) : Decides path asked (.error ⟨path, finding⟩)

theorem decides_require {asked : Prop} [Decidable asked] (path : NodePath) (finding : Finding) :
    Decides path asked (require asked path finding) := by
  unfold require
  by_cases h : asked
  · rw [if_pos (decide_eq_true h)]
    exact .ok h
  · rw [if_neg (by simpa using h)]
    exact .error finding h

theorem Decides.congr {path : NodePath} {asked asked' : Prop} {result : Except CheckFailure Unit}
    (h : Decides path asked result) (hiff : asked ↔ asked') : Decides path asked' result := by
  cases h with
  | ok h => exact .ok (hiff.mp h)
  | error finding h => exact .error finding (mt hiff.mpr h)

/-- Checks behind others are run only if those pass. -/
theorem Decides.bind {path : NodePath} {asked more : Prop}
    {result rest : Except CheckFailure Unit} (h : Decides path asked result)
    (hrest : asked → Decides path more rest) :
    Decides path (asked ∧ more) (result.bind fun _ => rest) := by
  cases h with
  | ok h => exact (hrest h).congr (and_iff_right h).symm
  | error finding h => exact .error finding fun both => h both.1

namespace NodeCheck

theorem runAll_cons (path : NodePath) (node : Node) (check : NodeCheck) (rest : List NodeCheck) :
    runAll path node (check :: rest)
      = (run path node check).bind fun _ => runAll path node rest := by
  rw [runAll]
  cases run path node check <;> rfl

theorem runAll_append (path : NodePath) (node : Node) (checks others : List NodeCheck) :
    runAll path node (checks ++ others)
      = (runAll path node checks).bind fun _ => runAll path node others := by
  induction checks with
  | nil =>
    rw [runAll]
    rfl
  | cons check checks ih =>
    rw [List.cons_append, runAll_cons, runAll_cons, ih]
    cases run path node check <;> rfl

theorem decides_cons {path : NodePath} {node : Node} {check : NodeCheck} {rest : List NodeCheck}
    {asked more : Prop} (h : Decides path asked (run path node check))
    (hrest : asked → Decides path more (runAll path node rest)) :
    Decides path (asked ∧ more) (runAll path node (check :: rest)) :=
  runAll_cons path node check rest ▸ h.bind hrest

theorem decides_append {path : NodePath} {node : Node} {checks others : List NodeCheck}
    {asked more : Prop} (h : Decides path asked (runAll path node checks))
    (hothers : asked → Decides path more (runAll path node others)) :
    Decides path (asked ∧ more) (runAll path node (checks ++ others)) :=
  runAll_append path node checks others ▸ h.bind hothers

theorem decides_single {path : NodePath} {node : Node} {check : NodeCheck} {asked : Prop}
    (h : Decides path asked (run path node check)) :
    Decides path asked (runAll path node [check]) := by
  have hnone : Decides path True (runAll path node []) := by
    rw [runAll]
    exact .ok trivial
  exact (decides_cons h fun _ => hnone).congr (iff_of_eq (and_true asked))

/-- One check for each entry decides about all of them. -/
theorem decides_entries {path : NodePath} {node : Node} {asked : String × String → Prop}
    {checkOf : String × String → NodeCheck}
    (h : ∀ entry, Decides path (asked entry) (run path node (checkOf entry))) :
    ∀ entries : List (String × String),
      Decides path (∀ entry ∈ entries, asked entry) (runAll path node (entries.map checkOf))
  | [] => by
    rw [List.map_nil, runAll]
    exact .ok fun _ hentry => absurd hentry List.not_mem_nil
  | entry :: entries =>
    (decides_cons (h entry) fun _ => decides_entries h entries).congr List.forall_mem_cons.symm

/-! ## §5. The own checks of a node. -/

variable (path : NodePath) (found expected : Node)

theorem decides_tag :
    Decides path (found.tag = expected.tag) (run path found (.tag expected.tag)) := by
  rw [run]
  exact decides_require path _

theorem decides_attributeChecks :
    Decides path (found.attrs = expected.attrs)
      (runAll path found expected.attributeChecks) := by
  have horder : Decides path (found.attrs.keys = expected.attrs.keys)
      (run path found (.attributeOrder expected.attrs.keys)) := by
    rw [run]
    exact decides_require path _
  have hvalue : ∀ entry : String × String,
      Decides path (found.attrs.get? entry.1 = some entry.2)
        (run path found (.attribute entry.1 entry.2)) := by
    intro entry
    rw [run]
    exact decides_require path _
  exact (decides_cons horder fun _ => decides_entries hvalue expected.attrs.entries).congr
    OrderedMap.eq_iff_holds.symm

theorem decides_textCheck :
    Decides path (found.text = expected.text) (run path found expected.textCheck) := by
  unfold Node.textCheck
  cases expected.text with
  | none =>
    rw [run]
    cases found.text with
    | none => exact .ok rfl
    | some text => exact .error _ nofun
  | some text =>
    rw [run]
    exact decides_require path _

/-- The values of a style block are checked once its order was: there is a block
then, unless no property is expected. -/
theorem decides_styleValues {found : Node} {styles : Styles}
    (hkeys : found.styleKeys = styles.keys) :
    Decides path (Node.StylesFit found.styles (some styles))
      (runAll path found (styles.entries.map fun entry => .style entry.1 entry.2)) := by
  unfold Node.styleKeys at hkeys
  cases hfound : found.styles with
  | none =>
    -- no property is expected, so nothing is checked
    rw [hfound] at hkeys
    have hnone : styles = ∅ := OrderedMap.ext (List.map_eq_nil_iff.mp hkeys.symm)
    rw [hnone, OrderedMap.entries_empty, List.map_nil, runAll]
    exact .ok (Or.inr ⟨rfl, rfl⟩)
  | some block =>
    rw [hfound] at hkeys
    have hvalue : ∀ entry : String × String, Decides path (block.get? entry.1 = some entry.2)
        (run path found (.style entry.1 entry.2)) := by
      intro entry
      rw [run, hfound]
      exact decides_require path _
    refine (decides_entries hvalue styles.entries).congr ?_
    unfold Node.StylesFit
    rw [Option.some.injEq, OrderedMap.eq_iff_holds]
    simp [show block.keys = styles.keys from hkeys]

theorem decides_styleChecks :
    Decides path (Node.StylesFit found.styles expected.styles)
      (runAll path found expected.styleChecks) := by
  unfold Node.styleChecks
  cases expected.styles with
  | none =>
    refine decides_single ?_
    rw [run]
    cases found.styles with
    | none => exact .ok (Or.inl rfl)
    | some styles => exact .error _ (by simp [Node.StylesFit])
  | some styles =>
    have horder : Decides path (found.styleKeys = styles.keys)
        (run path found (.styleOrder styles.keys)) := by
      rw [run]
      exact decides_require path _
    exact (decides_cons horder (decides_styleValues path)).congr
      (and_iff_right_of_imp Node.styleKeys_of_stylesFit)

theorem decides_ownChecks :
    Decides path (found.OwnFits expected) (runAll path found expected.ownChecks) := by
  have hcount : Decides path (found.children.length = expected.children.length)
      (run path found (.childCount expected.children.length)) := by
    rw [run]
    exact decides_require path _
  have hall := decides_cons (decides_tag path found expected) fun _ =>
    decides_append (decides_attributeChecks path found expected) fun _ =>
      decides_cons (decides_textCheck path found expected) fun _ =>
        decides_append (decides_styleChecks path found expected) fun _ => decides_single hcount
  exact hall.congr
    ⟨fun ⟨htag, hattrs, htext, hstyles, hcount⟩ => ⟨htag, hattrs, htext, hstyles, hcount⟩,
      fun h => ⟨h.tag, h.attrs, h.text, h.styles, h.childCount⟩⟩

end NodeCheck

/-! ## §6. Checks on trees. -/

/-- A result says whether nodes in document order are the expected ones, and if not,
names the first that is not. -/
inductive Compares (fits : Prop) (found expected : List (NodePath × Node)) :
    Except CheckFailure Unit → Prop where
  /-- All are. -/
  | ok (h : fits) (hsame : List.Forall₂ SameAt found expected) : Compares fits found expected (.ok ())
  /-- One is not. -/
  | error (failure : CheckFailure) (h : ¬ fits)
      (hfirst : FirstDifference found expected failure.path) :
      Compares fits found expected (.error failure)

theorem FirstDifference.append {found expected : List (NodePath × Node)} {path : NodePath}
    (h : FirstDifference found expected path) (more others : List (NodePath × Node)) :
    FirstDifference (found ++ more) (expected ++ others) path := by
  obtain ⟨before, node, after, before', node', after', rfl, rfl, hsame, hdiffers⟩ := h
  refine ⟨before, node, after ++ more, before', node', after' ++ others, ?_, ?_, hsame, hdiffers⟩
  · rw [List.append_assoc, List.cons_append]
  · rw [List.append_assoc, List.cons_append]

theorem FirstDifference.behind {found expected front front' : List (NodePath × Node)}
    {path : NodePath} (h : FirstDifference found expected path)
    (hfront : List.Forall₂ SameAt front front') :
    FirstDifference (front ++ found) (front' ++ expected) path := by
  obtain ⟨before, node, after, before', node', after', rfl, rfl, hsame, hdiffers⟩ := h
  refine ⟨front ++ before, node, after, front' ++ before', node', after', ?_, ?_,
    List.rel_append hfront hsame, hdiffers⟩
  · rw [List.append_assoc]
  · rw [List.append_assoc]

theorem Compares.congr {fits fits' : Prop} {found expected : List (NodePath × Node)}
    {result : Except CheckFailure Unit} (h : Compares fits found expected result)
    (hiff : fits ↔ fits') : Compares fits' found expected result := by
  cases h with
  | ok h hsame => exact .ok (hiff.mp h) hsame
  | error failure h hfirst => exact .error failure (mt hiff.mpr h) hfirst

theorem compares_nil : Compares True [] [] (.ok ()) :=
  .ok trivial .nil

/-- The nodes of one tree, then those of the trees behind it. -/
theorem Compares.bind {fits more : Prop} {found expected others others' : List (NodePath × Node)}
    {result rest : Except CheckFailure Unit} (h : Compares fits found expected result)
    (hrest : Compares more others others' rest) :
    Compares (fits ∧ more) (found ++ others) (expected ++ others')
      (result.bind fun _ => rest) := by
  cases h with
  | error failure h hfirst => exact .error failure (fun both => h both.1) (hfirst.append _ _)
  | ok h hsame =>
    cases hrest with
    | ok hmore hothers => exact .ok ⟨h, hmore⟩ (List.rel_append hsame hothers)
    | error failure hmore hfirst =>
      exact .error failure (fun both => hmore both.2) (hfirst.behind hsame)

/-- A node, then what is below it: if the node itself is not what is expected, it is
the first difference, whatever is below. -/
theorem Decides.compares {path : NodePath} {node node' : Node}
    {result rest : Except CheckFailure Unit} (h : Decides path (node.OwnFits node') result)
    {below below' : List (NodePath × Node)} {more : Prop}
    (hrest : node.OwnFits node' → Compares more below below' rest) :
    Compares (node.OwnFits node' ∧ more) ((path, node) :: below) ((path, node') :: below')
      (result.bind fun _ => rest) := by
  cases h with
  | ok h =>
    have hnode : Compares (node.OwnFits node') [(path, node)] [(path, node')] (.ok ()) :=
      .ok h (.cons ⟨rfl, h⟩ .nil)
    exact hnode.bind (hrest h)
  | error finding h =>
    exact .error _ (fun both => h both.1) ⟨[], node, below, [], node', below', rfl, rfl, .nil, h⟩

namespace Node

theorem fits_iff (found expected : Node) :
    found.Fits expected ↔ found.OwnFits expected ∧ FitsAll found.children expected.children := by
  obtain ⟨tag, attrs, styles, text, children⟩ := found
  rw [Fits]

theorem located_eq (path : NodePath) (node : Node) :
    node.located path = (path, node) :: locatedAll path.child 0 node.children := by
  obtain ⟨tag, attrs, styles, text, children⟩ := node
  rw [located]

theorem exists_cons_of_drop {nodes rest : List Node} {index : Nat} {node : Node}
    (h : nodes.drop index = node :: rest) :
    nodes[index]? = some node ∧ nodes.drop (index + 1) = rest := by
  constructor
  · rw [← List.head?_drop, h, List.head?_cons]
  · rw [← List.tail_drop, h, List.tail_cons]

mutual

/-- **STEP**: the checks of a tree. -/
theorem compares_checks :
    ∀ (expected found : Node) (path : NodePath),
      Compares (found.Fits expected) (found.located path) (expected.located path)
        (NodeCheck.runAll path found expected.checks)
  | ⟨tag, attrs, styles, text, children⟩, found, path => by
    have hown := NodeCheck.decides_ownChecks path found ⟨tag, attrs, styles, text, children⟩
    -- the children are checked only if there are as many as expected
    have hall := hown.compares fun h =>
      compares_childChecks children found path 0 found.children rfl h.childCount
    rw [located_eq, located_eq, checks, NodeCheck.runAll_append]
    exact hall.congr (fits_iff _ _).symm

/-- **RUN**: the checks of the children from some number on. -/
theorem compares_childChecks :
    ∀ (expected : List Node) (parent : Node) (path : NodePath) (index : Nat) (found : List Node),
      parent.children.drop index = found → found.length = expected.length →
      Compares (FitsAll found expected) (locatedAll path.child index found)
        (locatedAll path.child index expected)
        (NodeCheck.runAll path parent (childChecks index expected))
  | [], parent, path, index, [], _, _ => by
    rw [childChecks, NodeCheck.runAll, locatedAll]
    exact compares_nil.congr (by simp [FitsAll])
  | first :: expected, parent, path, index, node :: found, hfound, hlength => by
    obtain ⟨hnode, hbehind⟩ := exists_cons_of_drop hfound
    have hfirst := compares_checks first node (path.child index)
    have hrest := compares_childChecks expected parent path (index + 1) found hbehind
      (Nat.succ.inj hlength)
    have hrun : NodeCheck.run path parent (.child index first.checks)
        = NodeCheck.runAll (path.child index) node first.checks := by
      rw [NodeCheck.run, hnode]
    rw [childChecks, NodeCheck.runAll_cons, hrun, locatedAll, locatedAll]
    exact (hfirst.bind hrest).congr (by rw [FitsAll])

end

end Node

/-! ## §7. Checks on forests. -/

namespace ForestCheck

theorem runAll_cons (forest : List Node) (check : ForestCheck) (rest : List ForestCheck) :
    runAll forest (check :: rest)
      = (check.run forest).bind fun _ => runAll forest rest := by
  rw [runAll]
  cases check.run forest <;> rfl

/-- **RUN**: the checks of the roots from some number on. -/
theorem compares_rootChecks (forest : List Node) :
    ∀ (expected : List Node) (index : Nat) (found : List Node),
      forest.drop index = found → found.length = expected.length →
      Compares (Node.FitsAll found expected) (Node.locatedAll .root index found)
        (Node.locatedAll .root index expected)
        (runAll forest (Node.rootChecks index expected))
  | [], index, [], _, _ => by
    rw [Node.rootChecks, runAll, Node.locatedAll]
    exact compares_nil.congr (by simp [Node.FitsAll])
  | first :: expected, index, node :: found, hfound, hlength => by
    obtain ⟨hnode, hbehind⟩ := Node.exists_cons_of_drop hfound
    have hfirst := Node.compares_checks first node (.root index)
    have hrest := compares_rootChecks forest expected (index + 1) found hbehind
      (Nat.succ.inj hlength)
    have hrun : ForestCheck.run forest (.root index first.checks)
        = NodeCheck.runAll (.root index) node first.checks := by
      rw [ForestCheck.run, hnode]
    rw [Node.rootChecks, runAll_cons, hrun, Node.locatedAll, Node.locatedAll]
    exact (hfirst.bind hrest).congr (by rw [Node.FitsAll])

end ForestCheck

theorem Node.length_eq_of_fitsAll :
    ∀ {found expected : List Node}, FitsAll found expected → found.length = expected.length
  | [], _, h => by
    rw [FitsAll] at h
    rw [h]
  | _ :: found, [], h => by
    rw [FitsAll] at h
    exact h.elim
  | _ :: found, _ :: expected, h => by
    rw [FitsAll] at h
    exact congrArg (· + 1) (length_eq_of_fitsAll h.2)

/-- The roots are checked only if there are as many as expected. -/
theorem ForestCheck.runAll_forestChecks (found expected : List Node) :
    runAll found (Node.forestChecks expected)
      = if found.length = expected.length then runAll found (Node.rootChecks 0 expected)
        else .error ⟨.forest, .rootCount expected.length (tagsOf found)⟩ := by
  unfold Node.forestChecks
  rw [runAll_cons, ForestCheck.run, require]
  by_cases h : found.length = expected.length
  · rw [if_pos h, if_pos (decide_eq_true h)]
    rfl
  · rw [if_neg h, if_neg (mt of_decide_eq_true h)]
    rfl

/-! ## §8. What is reported. -/

/-- What stands in front of the message of a comparison. -/
def comparisonLead : String := "assertion `left == right` failed: "

/-- A message names a path: it begins with it, perhaps behind the lead of a
comparison. -/
def NamesPath (message : String) (path : NodePath) : Prop :=
  ∃ what, message = path.text ++ ": " ++ what
    ∨ message = comparisonLead ++ (path.text ++ ": " ++ what)

theorem namesPath_within (path : NodePath) (what : String) :
    NamesPath (path.text ++ ": " ++ what) path :=
  ⟨what, Or.inl rfl⟩

theorem namesPath_unequal (path : NodePath) (what actual expected : String) :
    NamesPath (unequal (path.text ++ ": " ++ what) actual expected) path := by
  refine ⟨what ++ "\n  left: " ++ actual ++ "\n right: " ++ expected, Or.inr ?_⟩
  unfold unequal comparisonLead
  simp only [String.append_assoc]

/-- **EVERY FAILURE NAMES ITS NODE.** -/
theorem CheckFailure.namesPath : ∀ failure : CheckFailure, NamesPath failure.message failure.path
  | ⟨path, .rootCount _ _⟩ => namesPath_unequal path _ _ _
  | ⟨path, .noRoot _ _⟩ => namesPath_within path _
  | ⟨path, .rootTags _ _⟩ => namesPath_unequal path _ _ _
  | ⟨path, .tag _ _⟩ => namesPath_unequal path _ _ _
  | ⟨path, .attribute _ _ _⟩ => namesPath_unequal path _ _ _
  | ⟨path, .unwantedAttribute _ _⟩ => namesPath_within path _
  | ⟨path, .attributeOrder _ _⟩ => namesPath_unequal path _ _ _
  | ⟨path, .text _ _⟩ => namesPath_unequal path _ _ _
  | ⟨path, .unwantedText _⟩ => namesPath_within path _
  | ⟨path, .noStyles⟩ => namesPath_within path _
  | ⟨path, .style _ _ _⟩ => namesPath_unequal path _ _ _
  | ⟨path, .styleOrder _ _⟩ => namesPath_unequal path _ _ _
  | ⟨path, .unwantedStyles _⟩ => namesPath_within path _
  | ⟨path, .childCount _ _⟩ => namesPath_unequal path _ _ _
  | ⟨path, .noChild _ _⟩ => namesPath_within path _

/-- **THE CHECKS OF A FOREST PIN IT DOWN.**  They pass on exactly the forests that are
the same in tags, attributes, texts, style blocks and children, orders included; only a
style block that is expected to be empty may be missing.  Where they fail, the message
names the forest, if the numbers of roots differ, and else the path of the first node
in document order that is not by itself what is expected or has another number of
children. -/
theorem checks_pin_down (found expected : List Node) :
    (ForestCheck.runAll found (Node.forestChecks expected) = .ok ()
        ↔ Node.FitsAll found expected)
      ∧ ∀ failure, ForestCheck.runAll found (Node.forestChecks expected) = .error failure →
          NamesPath failure.message failure.path
            ∧ (found.length ≠ expected.length → failure.path = .forest)
            ∧ (found.length = expected.length →
              FirstDifference (Node.inOrder found) (Node.inOrder expected) failure.path) := by
  rw [ForestCheck.runAll_forestChecks]
  by_cases hcount : found.length = expected.length
  · have hroots := ForestCheck.compares_rootChecks found expected 0 found rfl hcount
    rw [if_pos hcount]
    generalize ForestCheck.runAll found (Node.rootChecks 0 expected) = result at hroots ⊢
    cases hroots with
    | ok hfits _ => exact ⟨iff_of_true rfl hfits, nofun⟩
    | error failure hfits hfirst =>
      refine ⟨iff_of_false nofun hfits, ?_⟩
      rintro _ ⟨⟩
      exact ⟨failure.namesPath, fun hdiffers => absurd hcount hdiffers, fun _ => hfirst⟩
  · rw [if_neg hcount]
    refine ⟨iff_of_false nofun (mt Node.length_eq_of_fitsAll hcount), ?_⟩
    rintro _ ⟨⟩
    exact ⟨CheckFailure.namesPath _, fun _ => rfl, fun hsame => absurd hsame hcount⟩

/-- A style block that is missing where an empty one is expected is let pass, and a
tag that differs two nodes further on is named. -/
theorem checks_pin_down_behind_missing_styles :
    let expected : List Node :=
      [{ tag := "ul", styles := some ∅, children := [{ tag := "li" }, { tag := "b" }] }]
    let found : List Node := [{ tag := "ul", children := [{ tag := "li" }, { tag := "i" }] }]
    let failure : CheckFailure := ⟨.child (.root 0) 1, .tag "i" "b"⟩
    ForestCheck.runAll found (Node.forestChecks expected) = .error failure
      ∧ found.length = expected.length
      ∧ FirstDifference (Node.inOrder found) (Node.inOrder expected) (.child (.root 0) 1)
      ∧ NamesPath failure.message (.child (.root 0) 1)
      ∧ NodePath.text (.child (.root 0) 1) = "forest[0].children[1]"
      ∧ ¬ Node.FitsAll found expected := by
  intro expected found failure
  have hrun : ForestCheck.runAll found (Node.forestChecks expected) = .error failure := by
    decide +kernel
  obtain ⟨hpass, hfail⟩ := checks_pin_down found expected
  obtain ⟨hmessage, -, hfirst⟩ := hfail failure hrun
  refine ⟨hrun, rfl, hfirst rfl, hmessage, by decide +kernel, fun hfits => ?_⟩
  rw [hpass.mpr hfits] at hrun
  cases hrun

end MarkupShorthand
