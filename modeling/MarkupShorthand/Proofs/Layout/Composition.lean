/-
  MarkupShorthand.Proofs.Layout.Composition
  ─────────────────────────────────────────
  **FORESTS SIDE BY SIDE ARE LAID OUT ONE BELOW THE OTHER, AND A FOREST INSIDE A
  NODE IS LAID OUT AS IT WAS, ONE LEVEL FURTHER IN.**

      render_append    a line feed between the documents of two forests
      layout_succ      a level more in front of every line, and nothing else
      rows_parent      between the tags of a node without text, the rows of its
                       children
-/
import MarkupShorthand.Proofs.Layout.Rows

namespace MarkupShorthand

open Text

namespace Node

variable {dialect : Dialect}

/-! ## §1. Side by side. -/

theorem rowsAll_append (level : Nat) (nodes others : List Node) :
    rowsAll dialect level (nodes ++ others)
      = rowsAll dialect level nodes ++ rowsAll dialect level others := by
  induction nodes with
  | nil => rfl
  | cons node nodes ih => rw [List.cons_append, rowsAll_cons, rowsAll_cons, ih, List.append_assoc]

theorem rowsAll_ne_nil (level : Nat) {nodes : List Node} (h : nodes ≠ []) :
    rowsAll dialect level nodes ≠ [] := by
  cases nodes with
  | nil => exact absurd rfl h
  | cons node nodes =>
    obtain ⟨more, hrows⟩ := exists_rows_eq_cons dialect level node
    rw [rowsAll_cons, hrows]
    exact List.cons_ne_nil _ _

end Node

/-- **SIDE BY SIDE**: the document of two forests is that of the one, a line feed
and that of the other. -/
theorem Dialect.render_append (dialect : Dialect) {forest others : List Node}
    (hforest : forest ≠ []) (hothers : others ≠ []) :
    dialect.render (forest ++ others) = dialect.render forest ++ "\n" ++ dialect.render others := by
  rw [← String.toList_inj, String.toList_append, String.toList_append, Node.toList_render,
    Node.toList_render, Node.toList_render, Node.rowsAll_append,
    intercalate_append _ (Node.rowsAll_ne_nil 0 hforest) (Node.rowsAll_ne_nil 0 hothers),
    List.append_assoc]
  rfl

/-! ## §2. Further in. -/

/-- The line one level further in. -/
def LayoutLine.deeper (line : LayoutLine) : LayoutLine :=
  { line with level := line.level + 1 }

theorem LayoutLine.toList_written_deeper (line : LayoutLine) :
    line.deeper.written.toList = ' ' :: ' ' :: line.written.toList := by
  rw [Node.toList_written, Node.toList_written]
  show List.replicate (2 * (line.level + 1)) ' ' ++ _ = _
  rw [Nat.mul_succ, List.replicate_succ, List.replicate_succ]
  rfl

namespace Node

variable {dialect : Dialect}

mutual

/-- **STEP**: a node a level further in is laid out a level further in. -/
theorem layout_succ (level : Nat) :
    ∀ node : Node, node.layout dialect (level + 1)
      = (node.layout dialect level).map LayoutLine.deeper
  | ⟨tag, attrs, styles, text, children⟩ => by
    by_cases hbody : isEmpty ⟨tag, attrs, styles, text, children⟩ = true
    · rw [layout_of_isEmpty hbody, layout_of_isEmpty hbody]
      rfl
    · rw [layout_of_not_isEmpty hbody, layout_of_not_isEmpty hbody]
      have hchildren := layoutAll_succ (level + 1) children
      simp only [List.map_append, List.map_cons, List.map_map, hchildren]
      rfl

/-- **RUN**: ... and so is a forest. -/
theorem layoutAll_succ (level : Nat) :
    ∀ nodes : List Node, layoutAll dialect (level + 1) nodes
      = (layoutAll dialect level nodes).map LayoutLine.deeper
  | [] => rfl
  | node :: nodes => by
    unfold layoutAll
    rw [layout_succ level node, layoutAll_succ level nodes, List.map_append]

end

theorem rowsAll_succ (level : Nat) (nodes : List Node) :
    rowsAll dialect (level + 1) nodes = (rowsAll dialect level nodes).map (' ' :: ' ' :: ·) := by
  unfold rowsAll
  rw [layoutAll_succ, List.map_map, List.map_map]
  exact List.map_congr_left fun line _ => line.toList_written_deeper

/-! ## §3. Inside a node. -/

/-- The rows of a node that holds nothing but its children. -/
theorem rows_parent (tag : String) {children : List Node} (h : children ≠ []) :
    rowsAll dialect 0 [{ tag, children }]
      = ['<' :: (tag.toList ++ ['>'])]
        ++ ((rowsAll dialect 0 children).map (' ' :: ' ' :: ·)
        ++ ['<' :: '/' :: (tag.toList ++ ['>'])]) := by
  have hbody : ¬ isEmpty { tag, children } = true := by
    cases children with
    | nil => exact absurd rfl h
    | cons child children => simp [isEmpty, isLeaf]
  have hopening : (dialect.opening { tag, children }).toList = '<' :: tag.toList := by
    rw [Dialect.toList_opening]
    show '<' :: (tag.toList ++ []) = _
    rw [List.append_nil]
  rw [rowsAll_cons, rows_of_not_isEmpty hbody, hopening, closer, if_neg hbody, rowsAll_succ,
    show rowsAll dialect 0 [] = [] from rfl, List.append_nil]
  rfl

end Node

end MarkupShorthand
