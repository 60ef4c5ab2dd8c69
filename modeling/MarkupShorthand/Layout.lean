/-
  MarkupShorthand.Layout
  ──────────────────────
  **A DOCUMENT IS A LIST OF LINES, EACH FROM ONE PART OF ONE NODE, AT TWO
  SPACES PER LEVEL.**

  Body of an element at a level:

      <tag attributes></tag>     neither text nor children
      <tag attributes />         the same, in a dialect that closes such tags
      <tag attributes>           otherwise,
        text                     the text one level deeper,
        ...                      the children one level deeper,
      </tag>                     and the closing tag

  A `Dialect` decides how attributes are named, how a style block is written
  and how an element without a body is closed; the walk over the forest
  (`Node.layout`) is the same for all.  Texts and values are written as they
  are, nothing is escaped.
-/
import MarkupShorthand.Node

namespace MarkupShorthand

/-! ## §1. Dialects. -/

/-- The naming conventions of a document format. -/
structure Dialect where
  /-- How a style block is written, the attribute name included. -/
  styleAttribute : Styles → String
  /-- How an attribute is named. -/
  attributeName : String → String := id
  /-- Whether an element without a body is written as one closed tag. -/
  closesEmpty : Bool := false

namespace Dialect

/-- What stands in the opening tag: the attributes, then the style block. -/
def attributeTexts (dialect : Dialect) (node : Node) : List String :=
  node.attrs.entries.map
      (fun (name, value) => dialect.attributeName name ++ "=\"" ++ value ++ "\"") ++
    (node.styles.map dialect.styleAttribute).toList

/-- The tag and what stands in the opening tag, each part after a space. -/
def opening (dialect : Dialect) (node : Node) : String :=
  "<" ++ node.tag ++
    String.join ((dialect.attributeTexts node).map fun text => " " ++ text)

end Dialect

/-! ## §2. Lines. -/

/-- The part of a node that a line is. -/
inductive LinePart where
  /-- An element without a body. -/
  | empty
  /-- An opening tag. -/
  | opening
  /-- The text of an element. -/
  | text
  /-- A closing tag. -/
  | closing
  deriving DecidableEq, Inhabited

/-- A line of a document. -/
structure LayoutLine where
  /-- How far it is indented, in levels. -/
  level : Nat
  /-- The part that it is. -/
  part : LinePart
  /-- What it says. -/
  content : String
  deriving DecidableEq, Inhabited

/-- The indent of a level. -/
def indentation (level : Nat) : String :=
  .ofList (List.replicate (2 * level) ' ')

/-- The line as it is written. -/
def LayoutLine.written (line : LayoutLine) : String :=
  indentation line.level ++ line.content

namespace Node

/-- The one line of an element without a body. -/
def emptyLine (dialect : Dialect) (level : Nat) (node : Node) : LayoutLine :=
  ⟨level, .empty,
    dialect.opening node ++
      if dialect.closesEmpty then " />" else "></" ++ node.tag ++ ">"⟩

mutual

/-- The lines of a node. -/
def layout (dialect : Dialect) (level : Nat) : Node → List LayoutLine
  | ⟨tag, attrs, styles, text, children⟩ =>
    let node : Node := ⟨tag, attrs, styles, text, children⟩
    if node.isEmpty then [node.emptyLine dialect level]
    else
      ⟨level, .opening, dialect.opening node ++ ">"⟩ ::
        (node.visibleText?.toList.map fun shown => ⟨level + 1, .text, shown⟩) ++
        layoutAll dialect (level + 1) children ++
        [⟨level, .closing, "</" ++ tag ++ ">"⟩]

/-- The lines of a forest. -/
def layoutAll (dialect : Dialect) (level : Nat) : List Node → List LayoutLine
  | [] => []
  | node :: rest => node.layout dialect level ++ layoutAll dialect level rest

end

end Node

/-! ## §3. Documents. -/

/-- The forest as a document of the dialect. -/
def Dialect.render (dialect : Dialect) (forest : List Node) : String :=
  "\n".intercalate ((Node.layoutAll dialect 0 forest).map LayoutLine.written)

end MarkupShorthand
