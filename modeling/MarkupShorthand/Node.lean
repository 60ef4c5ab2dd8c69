/-
  MarkupShorthand.Node
  ────────────────────
  **ONE NODE PER SHORTHAND LINE: A TAG, ORDERED ATTRIBUTES, AN OPTIONAL STYLE
  BLOCK, AN OPTIONAL TEXT AND THE CHILDREN BELOW IT.**

  A style block that is absent differs from one that is empty, and a text that
  is absent from one that is empty; the writers decide what they make of that.
  A forest is a `List Node`.
-/
import MarkupShorthand.OrderedMap

namespace MarkupShorthand

/-! ## §1. Attributes and styles. -/

/-- The attributes of an element, in the order of first mention. -/
abbrev Attributes := OrderedMap

/-- The declarations of a style block, in the order of first mention. -/
abbrev Styles := OrderedMap

namespace Attributes

/-- The attribute that collects class words. -/
def classKey : String := "class"

/-- The attribute that an id mark sets. -/
def idKey : String := "id"

/-- Adds a class word: after a space to a class that is already there, as the
whole value where there is none or an empty one. -/
def addClass (attrs : Attributes) (word : String) : Attributes :=
  match attrs.get? classKey with
  | none => attrs.set classKey word
  | some held => attrs.set classKey (if held = "" then word else held ++ " " ++ word)

end Attributes

/-! ## §2. Nodes. -/

/-- An element with everything below it. -/
structure Node where
  /-- The element's name. -/
  tag : String
  /-- Its attributes. -/
  attrs : Attributes := ∅
  /-- Its style block, if it has one. -/
  styles : Option Styles := none
  /-- Its text, if it was given one, possibly empty. -/
  text : Option String := none
  /-- The elements directly inside it. -/
  children : List Node := []
  deriving Inhabited

namespace Node

/-- The value of the attribute `class`. -/
def class? (node : Node) : Option String :=
  node.attrs.get? Attributes.classKey

/-- The value of the attribute `id`. -/
def id? (node : Node) : Option String :=
  node.attrs.get? Attributes.idKey

/-- The text that a document shows: an empty text is not shown. -/
def visibleText? (node : Node) : Option String :=
  node.text.filter (· ≠ "")

/-- Whether nothing is inside the element but perhaps text. -/
def isLeaf (node : Node) : Bool :=
  node.children.isEmpty

/-- Whether the element has no body at all. -/
def isEmpty (node : Node) : Bool :=
  node.visibleText?.isNone && node.isLeaf

/-- The node with the children taken off. -/
def stripped (node : Node) : Node :=
  { node with children := [] }

/-! ## §3. Counting and listing. -/

mutual

/-- The number of nodes from this one down. -/
def size : Node → Nat
  | ⟨_, _, _, _, children⟩ => 1 + sizeAll children

/-- The number of nodes of a forest. -/
def sizeAll : List Node → Nat
  | [] => 0
  | node :: rest => node.size + sizeAll rest

end

mutual

/-- The node and all below it, parents before children, each with its level. -/
def levels (level : Nat) : Node → List (Nat × Node)
  | ⟨tag, attrs, styles, text, children⟩ =>
    (level, ⟨tag, attrs, styles, text, children⟩) :: levelsAll (level + 1) children

/-- The nodes of a forest, parents before children, each with its level. -/
def levelsAll (level : Nat) : List Node → List (Nat × Node)
  | [] => []
  | node :: rest => node.levels level ++ levelsAll level rest

end

/-! ## §4. Equality. -/

mutual

/-- Whether two nodes are the same, with all below them. -/
def decEq : ∀ node other : Node, Decidable (node = other)
  | ⟨tag, attrs, styles, text, children⟩, ⟨tag', attrs', styles', text', children'⟩ =>
    match decEqAll children children' with
    | .isTrue h => decidable_of_iff (tag = tag' ∧ attrs = attrs' ∧ styles = styles' ∧ text = text')
        (by simp [h])
    | .isFalse h => .isFalse (by simp [h])

/-- Whether two forests are the same. -/
def decEqAll : ∀ nodes others : List Node, Decidable (nodes = others)
  | [], [] => .isTrue rfl
  | [], _ :: _ => .isFalse (List.cons_ne_nil _ _).symm
  | _ :: _, [] => .isFalse (List.cons_ne_nil _ _)
  | node :: nodes, other :: others =>
    match decEq node other, decEqAll nodes others with
    | .isTrue h, .isTrue h' => .isTrue (by rw [h, h'])
    | .isFalse h, _ => .isFalse fun heq => h (List.cons.inj heq).1
    | _, .isFalse h => .isFalse fun heq => h (List.cons.inj heq).2

end

instance : DecidableEq Node := decEq

end Node

end MarkupShorthand
