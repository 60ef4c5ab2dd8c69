/-
  MarkupShorthand.Yaml.Forest
  ───────────────────────────
  **A FOREST IN BLOCK STYLE: ONE ITEM PER NODE, TWO COLUMNS PER LEVEL, A LIST
  FLUSH WITH ITS KEY.**

      - tag: div
        attrs:
          class: card
        children:
        - tag: p
          attrs: (an empty map in braces)

  An entry is closed by a line feed unless its value already ended its line, as
  a literal block with a break at its end does.
-/
import MarkupShorthand.Node
import MarkupShorthand.Yaml.Scalar

namespace MarkupShorthand.Yaml

/-! ## §1. Entries. -/

/-- The text with its last line ended. -/
def closeLine (cs : List Char) : List Char :=
  if endsLine cs then cs else cs ++ ['\n']

/-- The longest key, in bytes, that may stand before its colon on one line. -/
def longestSimpleKey : Nat := 128

/-- Whether a key stands before its colon on one line. -/
def isSimpleKey (key : String) : Bool :=
  !key.toList.any isBreak && key.utf8ByteSize ≤ longestSimpleKey

/-- The key of an entry in a map at a column, with what separates it from the
value. -/
def entryKey (column : Nat) (key : String) : List Char :=
  let written := scalar (column + 2) key.toList
  if isSimpleKey key then spaces column ++ written ++ [':']
  else
    spaces column ++ '?' :: ' ' :: closeLine written ++ spaces column ++ [':']

/-- A text as the value of an entry in a map at a column, its line ended. -/
def textValue (column : Nat) (value : String) : List Char :=
  ' ' :: closeLine (scalar (column + 2) value.toList)

/-- An entry with a text as its value, in a map at a column. -/
def textEntry (column : Nat) (key value : String) : List Char :=
  entryKey column key ++ textValue column value

/-- An entry with a map of texts as its value, in a map at a column. -/
def mapEntry (column : Nat) (key : String) (map : OrderedMap) : List Char :=
  if map.isEmpty then entryKey column key ++ [' ', '{', '}', '\n']
  else
    entryKey column key ++ '\n' ::
      map.entries.flatMap fun (name, value) => textEntry (column + 2) name value

/-! ## §2. Nodes. -/

/-- The beginning of an item at a column: the mark and the key of its tag. -/
def itemStart (column : Nat) : List Char :=
  spaces column ++ ['-', ' ', 't', 'a', 'g', ':']

mutual

/-- A node as an item at a column. -/
def nodeItem (column : Nat) : Node → List Char
  | ⟨tag, attrs, styles, text, children⟩ =>
    itemStart column ++ textValue (column + 2) tag ++
      mapEntry (column + 2) "attrs" attrs ++
      (match styles with
        | none => []
        | some held => mapEntry (column + 2) "styles" held) ++
      (match text with
        | none => []
        | some held => textEntry (column + 2) "text" held) ++
      (if children.isEmpty then []
        else entryKey (column + 2) "children" ++ '\n' :: nodeItems (column + 2) children)

/-- The nodes of a forest as items at a column. -/
def nodeItems (column : Nat) : List Node → List Char
  | [] => []
  | node :: rest => nodeItem column node ++ nodeItems column rest

end

/-- The forest as a YAML text. -/
def render (forest : List Node) : String :=
  if forest.isEmpty then "[]\n" else .ofList (nodeItems 0 forest)

end MarkupShorthand.Yaml
