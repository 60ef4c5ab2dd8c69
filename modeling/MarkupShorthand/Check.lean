/-
  MarkupShorthand.Check
  ─────────────────────
  **A FOREST IS CHECKED STEP BY STEP; THE FIRST STEP THAT FAILS SAYS WHERE AND
  WHY.**

  Checks on a forest may descend to a root, checks on a node to a child.  A
  failure carries the path to the node in question and what was found there.
-/
import MarkupShorthand.Node
import MarkupShorthand.Text.Shown

namespace MarkupShorthand

open Text

/-! ## §1. Paths. -/

/-- The way to a node of a forest: the number of a root, then numbers of
children. -/
inductive NodePath where
  /-- The forest itself. -/
  | forest
  /-- A root. -/
  | root (index : Nat)
  /-- A child of the node at a path. -/
  | child (parent : NodePath) (index : Nat)
  deriving DecidableEq, Inhabited

/-- A path as it is written. -/
def NodePath.text : NodePath → String
  | .forest => "forest"
  | .root index => "forest[" ++ toString index ++ "]"
  | .child parent index => parent.text ++ ".children[" ++ toString index ++ "]"

/-! ## §2. Failures. -/

/-- What a check found. -/
inductive Finding where
  /-- Another number of roots. -/
  | rootCount (expected : Nat) (roots : List String)
  /-- No root of this number. -/
  | noRoot (index count : Nat)
  /-- Other tags of the roots. -/
  | rootTags (actual expected : List String)
  /-- Another tag. -/
  | tag (actual expected : String)
  /-- Another value of an attribute, or none. -/
  | attribute (name : String) (actual : Option String) (expected : String)
  /-- An attribute that should not be there. -/
  | unwantedAttribute (name : String) (actual : Option String)
  /-- Other attribute names or another order. -/
  | attributeOrder (actual expected : List String)
  /-- Another text, or none. -/
  | text (actual : Option String) (expected : String)
  /-- A text that should not be there. -/
  | unwantedText (actual : Option String)
  /-- No style block. -/
  | noStyles
  /-- Another value of a property, or none. -/
  | style (property : String) (actual : Option String) (expected : String)
  /-- Other properties or another order. -/
  | styleOrder (actual expected : List String)
  /-- A style block that should not be there. -/
  | unwantedStyles (actual : Styles)
  /-- Another number of children. -/
  | childCount (expected : Nat) (children : List String)
  /-- No child of this number. -/
  | noChild (index count : Nat)
  deriving DecidableEq

/-- A check that failed. -/
structure CheckFailure where
  /-- The node in question. -/
  path : NodePath
  /-- What was found. -/
  finding : Finding
  deriving DecidableEq

/-- Tags as they stand in a message. -/
def tagSummary (tags : List String) : String :=
  "[" ++ ", ".intercalate (tags.map fun tag => "<" ++ tag ++ ">") ++ "]"

/-- The message of a comparison that failed. -/
def unequal (context actual expected : String) : String :=
  "assertion `left == right` failed: " ++ context ++ "\n  left: " ++ actual ++ "\n right: " ++
    expected

/-- A style block as it is shown. -/
def shownStyles (styles : Styles) : String :=
  let entry (pair : String × String) : String := shown pair.1 ++ ": " ++ shown pair.2
  "Some(Styles(\x7b" ++ ", ".intercalate (styles.entries.map entry) ++ "\x7d))"

/-- What is reported of a failure. -/
def CheckFailure.message (failure : CheckFailure) : String :=
  let within (what : String) : String := failure.path.text ++ ": " ++ what
  let counted (kind : String) (expected : Nat) (tags : List String) : String :=
    unequal
      (within ("Expected " ++ toString expected ++ " " ++ kind ++ ", found " ++
        toString tags.length ++ ": " ++ tagSummary tags))
      (toString tags.length) (toString expected)
  match failure.finding with
  | .rootCount expected roots => counted "roots" expected roots
  | .noRoot index count =>
    within ("Root index " ++ toString index ++ " out of bounds (" ++ toString count ++ " roots)")
  | .rootTags actual expected =>
    unequal (within "root tags differ") (shownList actual) (shownList expected)
  | .tag actual expected =>
    unequal (within ("Expected tag <" ++ expected ++ ">, found <" ++ actual ++ ">"))
      (shown actual) (shown expected)
  | .attribute name actual expected =>
    unequal (within ("attribute '" ++ name ++ "' mismatch"))
      (shownOption actual) (shownOption (some expected))
  | .unwantedAttribute name actual =>
    within ("Expected no '" ++ name ++ "' attribute, found " ++ shownOption actual)
  | .attributeOrder actual expected =>
    unequal (within "attribute order differs") (shownList actual) (shownList expected)
  | .text actual expected =>
    unequal (within "text content mismatch") (shownOption actual) (shownOption (some expected))
  | .unwantedText actual => within ("Expected no text, found " ++ shownOption actual)
  | .noStyles => within "Expected styles, found none"
  | .style property actual expected =>
    unequal (within ("style '" ++ property ++ "' mismatch"))
      (shownOption actual) (shownOption (some expected))
  | .styleOrder actual expected =>
    unequal (within "style order differs") (shownList actual) (shownList expected)
  | .unwantedStyles actual => within ("Expected no styles, found " ++ shownStyles actual)
  | .childCount expected children => counted "children" expected children
  | .noChild index count =>
    within ("Child index " ++ toString index ++ " out of bounds (" ++ toString count ++
      " children)")

/-! ## §3. Checks. -/

/-- A check on a node. -/
inductive NodeCheck where
  | tag (expected : String)
  | attribute (name expected : String)
  | noAttribute (name : String)
  | attributeOrder (expected : List String)
  | text (expected : String)
  | noText
  | style (property expected : String)
  | styleOrder (expected : List String)
  | noStyles
  | childCount (expected : Nat)
  /-- Checks on a child. -/
  | child (index : Nat) (checks : List NodeCheck)
  deriving Inhabited

namespace NodeCheck

/-- The check on the class. -/
def className (expected : String) : NodeCheck := .attribute Attributes.classKey expected

/-- The check on the id. -/
def id (expected : String) : NodeCheck := .attribute Attributes.idKey expected

/-- The check that there are no children. -/
def isLeaf : NodeCheck := .childCount 0

end NodeCheck

/-- A check on a forest. -/
inductive ForestCheck where
  | count (expected : Nat)
  | tags (expected : List String)
  /-- Checks on a root. -/
  | root (index : Nat) (checks : List NodeCheck)
  deriving Inhabited

/-- The check that there are no roots. -/
def ForestCheck.isEmpty : ForestCheck := .count 0

/-! ## §4. Checking. -/

/-- The finding, unless the condition holds. -/
def require (condition : Bool) (path : NodePath) (finding : Finding) :
    Except CheckFailure Unit :=
  if condition then .ok () else .error ⟨path, finding⟩

/-- The tags of nodes. -/
def tagsOf (nodes : List Node) : List String :=
  nodes.map (·.tag)

/-- The properties of the style block, none if there is no block. -/
def Node.styleKeys (node : Node) : List String :=
  match node.styles with
  | none => []
  | some styles => styles.keys

mutual

/-- Runs one check on the node at a path. -/
def NodeCheck.run (path : NodePath) (node : Node) : NodeCheck → Except CheckFailure Unit
  | .tag expected => require (node.tag = expected) path (.tag node.tag expected)
  | .attribute name expected =>
    require (node.attrs.get? name = some expected) path
      (.attribute name (node.attrs.get? name) expected)
  | .noAttribute name =>
    require (!node.attrs.contains name) path (.unwantedAttribute name (node.attrs.get? name))
  | .attributeOrder expected =>
    require (node.attrs.keys = expected) path (.attributeOrder node.attrs.keys expected)
  | .text expected => require (node.text = some expected) path (.text node.text expected)
  | .noText => require node.text.isNone path (.unwantedText node.text)
  | .style property expected =>
    match node.styles with
    | none => .error ⟨path, .noStyles⟩
    | some styles =>
      require (styles.get? property = some expected) path
        (.style property (styles.get? property) expected)
  | .styleOrder expected =>
    require (node.styleKeys = expected) path (.styleOrder node.styleKeys expected)
  | .noStyles =>
    match node.styles with
    | none => .ok ()
    | some styles => .error ⟨path, .unwantedStyles styles⟩
  | .childCount expected =>
    require (node.children.length = expected) path
      (.childCount expected (tagsOf node.children))
  | .child index checks =>
    match node.children[index]? with
    | none => .error ⟨path, .noChild index node.children.length⟩
    | some inner => NodeCheck.runAll (.child path index) inner checks

/-- Runs checks on the node at a path, one after the other. -/
def NodeCheck.runAll (path : NodePath) (node : Node) :
    List NodeCheck → Except CheckFailure Unit
  | [] => .ok ()
  | check :: rest =>
    match NodeCheck.run path node check with
    | .error failure => .error failure
    | .ok () => NodeCheck.runAll path node rest

end

/-- Runs one check on a forest. -/
def ForestCheck.run (forest : List Node) : ForestCheck → Except CheckFailure Unit
  | .count expected =>
    require (forest.length = expected) .forest (.rootCount expected (tagsOf forest))
  | .tags expected =>
    require (tagsOf forest = expected) .forest (.rootTags (tagsOf forest) expected)
  | .root index checks =>
    match forest[index]? with
    | none => .error ⟨.forest, .noRoot index forest.length⟩
    | some node => NodeCheck.runAll (.root index) node checks

/-- Runs checks on a forest, one after the other. -/
def ForestCheck.runAll (forest : List Node) : List ForestCheck → Except CheckFailure Unit
  | [] => .ok ()
  | check :: rest =>
    match check.run forest with
    | .error failure => .error failure
    | .ok () => runAll forest rest

end MarkupShorthand
