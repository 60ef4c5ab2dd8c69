/-
  MarkupShorthand.Proofs.Layout.Origins
  ─────────────────────────────────────
  **WHICH PART OF WHICH NODE A LINE IS HAS NOTHING TO DO WITH THE DIALECT.**

  A dialect decides what opening tags say.  Which lines there are, in which order
  and at which levels, is decided by the forest alone:

      an element without a body    one line
      any other element            its opening tag, its text if it shows one, the
                                   lines of its children, its closing tag

  `Node.originsAll` lists the origins of the lines, and a document is what a
  dialect makes of that list.

      layoutAll_eq_origins       each line is that of its origin
      length_originsAll          every node has its own number of lines
      names_of_mem_originsAll    an origin names a node of the forest by its place,
                                 and a part that this node has
-/
import Mathlib.Algebra.GroupWithZero.Nat
import MarkupShorthand.Proofs.Forest.Flattening
import MarkupShorthand.Proofs.Layout.Rows

namespace MarkupShorthand

/-! ## §1. Parts of nodes. -/

/-- Where a line of a document comes from. -/
structure LineOrigin where
  /-- The place of the node, parents before children. -/
  place : Nat
  /-- The level of the node. -/
  level : Nat
  /-- The node. -/
  node : Node
  /-- The part of the node that the line is. -/
  part : LinePart

namespace LineOrigin

/-- How far the line is indented, in levels: a text stands one further in than the
tags of its node. -/
def depth (origin : LineOrigin) : Nat :=
  match origin.part with
  | .text => origin.level + 1
  | _ => origin.level

/-- What the line says in a dialect. -/
def content (dialect : Dialect) (origin : LineOrigin) : String :=
  match origin.part with
  | .empty => (origin.node.emptyLine dialect origin.level).content
  | .opening => dialect.opening origin.node ++ ">"
  | .text => origin.node.visibleText?.getD ""
  | .closing => "</" ++ origin.node.tag ++ ">"

/-- The line in a dialect. -/
def line (dialect : Dialect) (origin : LineOrigin) : LayoutLine :=
  ⟨origin.depth, origin.part, origin.content dialect⟩

theorem depth_eq (origin : LineOrigin) :
    origin.depth = if origin.part = .text then origin.level + 1 else origin.level := by
  unfold depth
  cases origin.part <;> rfl

/-- Texts and closing tags say the same in all dialects. -/
theorem content_eq {origin : LineOrigin} (h : origin.part = .text ∨ origin.part = .closing)
    (dialect other : Dialect) : origin.content dialect = origin.content other := by
  unfold content
  rcases h with h | h <;> rw [h]

end LineOrigin

namespace Node

/-- The number of lines that are parts of the node itself. -/
def lineCount (node : Node) : Nat :=
  if node.isEmpty then 1 else if node.visibleText?.isSome then 3 else 2

/-- The parts of a node in front of its children. -/
def partsBefore (node : Node) : List LinePart :=
  if node.isEmpty then [.empty] else .opening :: node.visibleText?.toList.map fun _ => .text

/-- The parts of a node behind its children. -/
def partsBehind (node : Node) : List LinePart :=
  if node.isEmpty then [] else [.closing]

mutual

/-- The origins of the lines of a node that stands at `place`. -/
def origins (place level : Nat) : Node → List LineOrigin
  | ⟨tag, attrs, styles, text, children⟩ =>
    let node : Node := ⟨tag, attrs, styles, text, children⟩
    node.partsBefore.map (LineOrigin.mk place level node) ++
      originsAll (place + 1) (level + 1) children ++
      node.partsBehind.map (LineOrigin.mk place level node)

/-- The origins of the lines of a forest, the first node of which stands at `place`. -/
def originsAll (place level : Nat) : List Node → List LineOrigin
  | [] => []
  | node :: rest => node.origins place level ++ originsAll (place + node.size) level rest

end

theorem origins_eq (place level : Nat) (node : Node) :
    node.origins place level
      = node.partsBefore.map (LineOrigin.mk place level node) ++
        originsAll (place + 1) (level + 1) node.children ++
        node.partsBehind.map (LineOrigin.mk place level node) := by
  obtain ⟨tag, attrs, styles, text, children⟩ := node
  rw [origins]

theorem length_parts (node : Node) :
    node.partsBefore.length + node.partsBehind.length = node.lineCount := by
  unfold partsBefore partsBehind lineCount
  cases node.isEmpty with
  | true => rfl
  | false => cases node.visibleText? <;> rfl

/-- A node without a body is one part, and no other node has such a part. -/
theorem eq_empty_iff_of_mem_parts {node : Node} {part : LinePart}
    (h : part ∈ node.partsBefore ++ node.partsBehind) :
    part = .empty ↔ node.isEmpty = true := by
  unfold partsBefore partsBehind at h
  cases hbody : node.isEmpty with
  | true =>
    rw [hbody] at h
    simpa using h
  | false =>
    rw [hbody] at h
    constructor
    · rintro rfl
      simp at h
    · intro hfalse
      cases hfalse

/-- Only a node that shows a text has a part for it. -/
theorem exists_text_of_mem_parts {node : Node}
    (h : LinePart.text ∈ node.partsBefore ++ node.partsBehind) :
    ∃ shown, node.visibleText? = some shown := by
  cases htext : node.visibleText? with
  | some shown => exact ⟨shown, rfl⟩
  | none =>
    unfold partsBefore partsBehind at h
    rw [htext] at h
    split at h <;> simp at h

/-! ## §2. Lines from their origins. -/

/-- The line of the text, if there is one. -/
theorem lines_text (dialect : Dialect) (place level : Nat) (node : Node) :
    (node.visibleText?.toList.map fun _ => LineOrigin.line dialect ⟨place, level, node, .text⟩)
      = node.visibleText?.toList.map fun shown => ⟨level + 1, .text, shown⟩ := by
  refine List.map_congr_left fun shown hshown => ?_
  have htext : node.visibleText? = some shown := Option.mem_toList.mp hshown
  show LayoutLine.mk (level + 1) .text (node.visibleText?.getD "") = _
  rw [htext]
  rfl

mutual

/-- **STEP**: the lines of a node are those of its parts and of its children. -/
theorem layout_eq_origins (dialect : Dialect) :
    ∀ (node : Node) (place level : Nat),
      node.layout dialect level = (node.origins place level).map (LineOrigin.line dialect)
  | ⟨tag, attrs, styles, text, children⟩, place, level => by
    have hchildren := layoutAll_eq_origins dialect children (place + 1) (level + 1)
    rw [origins_eq]
    by_cases hbody : isEmpty ⟨tag, attrs, styles, text, children⟩ = true
    · -- there are no children between the one part and the end
      obtain ⟨-, hnone⟩ := (isEmpty_iff _).mp hbody
      have hnone : children = [] := hnone
      rw [layout_of_isEmpty hbody, partsBefore, partsBehind, if_pos hbody, if_pos hbody, hnone]
      rfl
    · rw [layout_of_not_isEmpty hbody, partsBefore, partsBehind, if_neg hbody, if_neg hbody,
        hchildren]
      rw [List.map_append, List.map_append, List.map_cons, List.map_map, List.map_cons,
        List.map_map, ← lines_text dialect place level]
      rfl

/-- **RUN**: ... the lines of a forest. -/
theorem layoutAll_eq_origins (dialect : Dialect) :
    ∀ (nodes : List Node) (place level : Nat),
      layoutAll dialect level nodes
        = (originsAll place level nodes).map (LineOrigin.line dialect)
  | [], _, _ => rfl
  | node :: rest, place, level => by
    unfold layoutAll originsAll
    rw [List.map_append, ← layout_eq_origins dialect node place level,
      ← layoutAll_eq_origins dialect rest (place + node.size) level]

end

/-! ## §3. All origins. -/

mutual

/-- A node has its own lines and those of its children. -/
theorem length_origins :
    ∀ (node : Node) (place level : Nat),
      (node.origins place level).length
        = ((node.levels level).map fun entry => entry.2.lineCount).sum
  | ⟨tag, attrs, styles, text, children⟩, place, level => by
    have hchildren := length_originsAll children (place + 1) (level + 1)
    have hparts := length_parts ⟨tag, attrs, styles, text, children⟩
    rw [origins_eq, levels, List.length_append, List.length_append, List.length_map,
      List.length_map, hchildren, List.map_cons, List.sum_cons, ← hparts]
    omega

/-- **EVERY NODE HAS ITS OWN NUMBER OF LINES**, and there are no others. -/
theorem length_originsAll :
    ∀ (nodes : List Node) (place level : Nat),
      (originsAll place level nodes).length
        = ((levelsAll level nodes).map fun entry => entry.2.lineCount).sum
  | [], _, _ => rfl
  | node :: rest, place, level => by
    unfold originsAll levelsAll
    rw [List.length_append, length_origins node place level,
      length_originsAll rest (place + node.size) level, List.map_append, List.sum_append]

end

/-- The origin names a node of the list, the first of which stands at `place`, and a
part that this node has. -/
def Names (place : Nat) (entries : List (Nat × Node)) (origin : LineOrigin) : Prop :=
  ((origin.level, origin.node), origin.place) ∈ entries.zipIdx place
    ∧ origin.part ∈ origin.node.partsBefore ++ origin.node.partsBehind

mutual

/-- **STEP**: the origins in a node name what is in it. -/
theorem names_of_mem_origins :
    ∀ (node : Node) (place level : Nat), ∀ origin ∈ node.origins place level,
      Names place (node.levels level) origin
  | ⟨tag, attrs, styles, text, children⟩, place, level, origin, horigin => by
    rw [origins_eq] at horigin
    unfold Names
    rw [levels, List.zipIdx_cons]
    rcases List.mem_append.mp horigin with horigin | horigin
    · rcases List.mem_append.mp horigin with horigin | horigin
      · obtain ⟨part, hpart, rfl⟩ := List.mem_map.mp horigin
        exact ⟨List.mem_cons_self, List.mem_append_left _ hpart⟩
      · obtain ⟨hentry, hpart⟩ := names_of_mem_originsAll children (place + 1) (level + 1) origin
          horigin
        exact ⟨List.mem_cons_of_mem _ hentry, hpart⟩
    · obtain ⟨part, hpart, rfl⟩ := List.mem_map.mp horigin
      exact ⟨List.mem_cons_self, List.mem_append_right _ hpart⟩

/-- **RUN**: ... in a forest. -/
theorem names_of_mem_originsAll :
    ∀ (nodes : List Node) (place level : Nat), ∀ origin ∈ originsAll place level nodes,
      Names place (levelsAll level nodes) origin
  | node :: rest, place, level, origin, horigin => by
    unfold originsAll at horigin
    unfold Names levelsAll
    rw [List.zipIdx_append, length_levels]
    rcases List.mem_append.mp horigin with horigin | horigin
    · obtain ⟨hentry, hpart⟩ := names_of_mem_origins node place level origin horigin
      exact ⟨List.mem_append_left _ hentry, hpart⟩
    · obtain ⟨hentry, hpart⟩ := names_of_mem_originsAll rest (place + node.size) level origin
        horigin
      exact ⟨List.mem_append_right _ hentry, hpart⟩

end

/-- An origin in a forest says which node it is of, and where this node stands. -/
theorem getElem?_of_mem_originsAll {nodes : List Node} {level : Nat} {origin : LineOrigin}
    (h : origin ∈ originsAll 0 level nodes) :
    (levelsAll level nodes)[origin.place]? = some (origin.level, origin.node) :=
  List.mem_zipIdx_iff_getElem?.mp (names_of_mem_originsAll nodes 0 level origin h).1

end Node

end MarkupShorthand
