/-
  MarkupShorthand.Outline
  ───────────────────────
  **AN OUTLINE HAS ONE LINE PER NODE, INDENTED BY ITS LEVEL IN THE TREE.**

      <div>#root.main-container.theme-dark [data-role]
        <h1>.page-title "Welcome to the page" (the number of declarations in braces)

  After the tag come the id, the class words, the names of the other attributes,
  the beginning of the text and the number of style declarations, each only if
  the node has it.
-/
import MarkupShorthand.Layout
import MarkupShorthand.Text.Blank

namespace MarkupShorthand.Outline

open Text

/-- How many characters of a text are shown. -/
def previewLength : Nat := 30

/-- The beginning of a text, with dots if there is more of it. -/
def preview (text : String) : String :=
  let cs := text.toList
  if cs.length > previewLength then .ofList (cs.take previewLength ++ ['.', '.', '.'])
  else text

/-- The attributes that an outline only names. -/
def otherNames (node : Node) : List String :=
  node.attrs.keys.filter fun name => name ≠ Attributes.classKey ∧ name ≠ Attributes.idKey

/-- What an outline says about a node. -/
def label (node : Node) : String :=
  let classWords := words (node.class?.getD "").toList
  let others := otherNames node
  "<" ++ node.tag ++ ">" ++
    (match node.id? with
      | none => ""
      | some name => "#" ++ name) ++
    String.join (classWords.map fun word => "." ++ String.ofList word) ++
    (if others.isEmpty then "" else " [" ++ ", ".intercalate others ++ "]") ++
    (match node.text with
      | none => ""
      | some text => " \"" ++ preview text ++ "\"") ++
    (match node.styles with
      | none => ""
      | some styles => " \x7b" ++ toString styles.size ++ "\x7d")

/-- The lines of an outline. -/
def lines (forest : List Node) : List String :=
  (Node.levelsAll 0 forest).map fun (level, node) => indentation level ++ label node

/-- The outline of a forest. -/
def render (forest : List Node) : String :=
  "\n".intercalate (lines forest)

end MarkupShorthand.Outline
