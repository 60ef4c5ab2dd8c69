/-
  MarkupShorthand.Snapshot
  ────────────────────────
  **THE SNAPSHOT OF A NODE: TAG AND ATTRIBUTES ALWAYS, STYLES AND TEXT IF THE
  NODE HAS THEM, CHILDREN IF THERE ARE ANY.**

  A style block that is there but empty is kept, as an empty object; so is an
  empty text.
-/
import MarkupShorthand.Json.Value
import MarkupShorthand.Node

namespace MarkupShorthand

/-- A map as a JSON object. -/
def OrderedMap.toJson (map : OrderedMap) : Json.Value :=
  .object (map.entries.map fun (key, value) => (key, .string value))

namespace Snapshot

mutual

/-- The snapshot of a node. -/
def ofNode : Node → Json.Value
  | ⟨tag, attrs, styles, text, children⟩ =>
    .object <|
      ("tag", .string tag) :: ("attrs", attrs.toJson) ::
        ((styles.map fun held => ("styles", held.toJson)).toList ++
          (text.map fun held => ("text", Json.Value.string held)).toList ++
          if children.isEmpty then [] else [("children", .array (ofForest children))])

/-- The snapshots of the nodes of a forest. -/
def ofForest : List Node → List Json.Value
  | [] => []
  | node :: rest => ofNode node :: ofForest rest

end

/-- The snapshot of a forest without blanks. -/
def compact (forest : List Node) : String :=
  (Json.Value.array (ofForest forest)).compact

/-- The snapshot of a forest, a member per line. -/
def pretty (forest : List Node) : String :=
  (Json.Value.array (ofForest forest)).pretty 0

end Snapshot

end MarkupShorthand
