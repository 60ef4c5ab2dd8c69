/-
  MarkupShorthand.Forest
  ──────────────────────
  **EVERY NODE GOES UNDER THE LAST NODE BEFORE IT THAT IS SHALLOWER.**

  The depths come from the indents of the lines and may jump: a node three
  levels deeper than the one before is a child of it all the same, and a
  partial way back makes a sibling.  The nodes are read once, from the left.

      opened      the elements that may still take children, innermost first
      finished    the trees that nothing can be added to

  A node closes what is not shallower than itself (`Nesting.closeTo`): an
  element that closes goes into the element around it, or to the finished
  trees.  Then the node is opened.  The announcements made on the way
  (`attachments`) name the element that is innermost at that moment.
-/
import MarkupShorthand.Node

namespace MarkupShorthand.Forest

/-! ## §1. Nesting. -/

/-- An element that may still take children. -/
structure OpenNode where
  /-- The element with the children that it has so far. -/
  node : Node
  /-- Its depth. -/
  depth : Nat
  deriving Inhabited

/-- The element with these trees behind its children. -/
def OpenNode.take (inner : OpenNode) (trees : List Node) : OpenNode :=
  { inner with node := { inner.node with children := inner.node.children ++ trees } }

/-- What has become of the nodes read so far. -/
structure Nesting where
  /-- The open elements, the innermost first. -/
  opened : List OpenNode := []
  /-- The finished trees in order. -/
  finished : List Node := []
  deriving Inhabited

namespace Nesting

/-- Closes the elements that are not shallower than `depth`, the innermost
first.  What was closed just before goes into the next element, or to the
finished trees where there is none. -/
def closeOnto (depth : Nat) (finished closed : List Node) : List OpenNode → Nesting
  | [] => ⟨[], finished ++ closed⟩
  | inner :: outer =>
    if depth ≤ inner.depth then closeOnto depth finished [(inner.take closed).node] outer
    else ⟨inner.take closed :: outer, finished⟩

/-- Closes the elements that are not shallower than `depth`. -/
def closeTo (nesting : Nesting) (depth : Nat) : Nesting :=
  closeOnto depth nesting.finished [] nesting.opened

/-- Opens a node inside of what is open. -/
def push (nesting : Nesting) (item : Node × Nat) : Nesting :=
  { nesting with opened := ⟨item.1, item.2⟩ :: nesting.opened }

/-- Reads one node. -/
def add (nesting : Nesting) (item : Node × Nat) : Nesting :=
  (nesting.closeTo item.2).push item

end Nesting

/-- The forest that nodes with depths make. -/
def nest (items : List (Node × Nat)) : List Node :=
  ((items.foldl Nesting.add {}).closeTo 0).finished

/-! ## §2. Announcements. -/

/-- How an open element is named: its tag and its depth. -/
structure OpenElement where
  /-- Its tag. -/
  tag : String
  /-- Its depth. -/
  depth : Nat
  deriving DecidableEq, Inhabited

/-- The name of an open element. -/
def OpenNode.element (inner : OpenNode) : OpenElement :=
  ⟨inner.node.tag, inner.depth⟩

/-- Where a node goes when it is opened. -/
structure Attachment where
  /-- The node that is opened. -/
  element : OpenElement
  /-- The element that it goes under, none for a root. -/
  parent : Option OpenElement
  deriving DecidableEq, Inhabited

/-- The attachments of the nodes that are still to be read. -/
def attachmentsFrom (nesting : Nesting) : List (Node × Nat) → List Attachment
  | [] => []
  | item :: rest =>
    let closed := nesting.closeTo item.2
    ⟨⟨item.1.tag, item.2⟩, closed.opened.head?.map OpenNode.element⟩ ::
      attachmentsFrom (closed.push item) rest

/-- The attachments of nodes in order. -/
def attachments (items : List (Node × Nat)) : List Attachment :=
  attachmentsFrom {} items

/-- How an attachment is announced. -/
def Attachment.message (attachment : Attachment) : String :=
  let element := attachment.element
  "<" ++ element.tag ++ "> at depth " ++ toString element.depth ++
    match attachment.parent with
    | none => " is a root"
    | some parent =>
      " goes under <" ++ parent.tag ++ "> at depth " ++ toString parent.depth

end MarkupShorthand.Forest
