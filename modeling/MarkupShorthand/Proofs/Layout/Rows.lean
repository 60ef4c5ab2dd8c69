/-
  MarkupShorthand.Proofs.Layout.Rows
  ──────────────────────────────────
  **THE ROWS OF A DOCUMENT SHOW WHERE EACH ELEMENT BEGINS, WHAT IS IN IT AND
  WHERE IT ENDS.**

  From top to bottom, at every level:

      <tag ...></tag>, <tag ... />   an element without a body: it is closed at
                                     once, and its row differs from
      <tag ...>                      an opening row in how it ends
        text                         the row below it is no opening row of the
                                     next level, since a text has no `<` in front
        <child ...>                  children follow as long as rows open at
                                     their level
      </tag>                         a closing row is a level further out

  `Node.shown` is what a document can show of a node at all: an empty text is
  laid out as no text.  Where nothing in the nodes holds a line feed, the rows are
  the lines of the document (`rowsAll_oneLined`).
-/
import MarkupShorthand.Proofs.Layout.Opening

namespace MarkupShorthand

open Text

/-! ## §1. What a document shows of a forest. -/

namespace Node

mutual

/-- The node as a document shows it: an empty text is no text. -/
def shown : Node → Node
  | ⟨tag, attrs, styles, text, children⟩ =>
    ⟨tag, attrs, styles, text.filter (· ≠ ""), shownAll children⟩

/-- The nodes of a forest as a document shows them. -/
def shownAll : List Node → List Node
  | [] => []
  | node :: rest => node.shown :: shownAll rest

end

theorem isLeaf_shown (node : Node) : node.shown.isLeaf = node.isLeaf := by
  obtain ⟨tag, attrs, styles, text, children⟩ := node
  cases children with
  | nil => rfl
  | cons child children => rfl

theorem visibleText?_shown (node : Node) : node.shown.visibleText? = node.visibleText? := by
  obtain ⟨tag, attrs, styles, text, children⟩ := node
  show (text.filter (· ≠ "")).filter (· ≠ "") = text.filter (· ≠ "")
  rw [Option.filter_filter]
  simp

mutual

/-- **A DOCUMENT DEPENDS ONLY ON WHAT IT SHOWS.** -/
theorem layout_shown (dialect : Dialect) (level : Nat) :
    ∀ node : Node, node.shown.layout dialect level = node.layout dialect level
  | ⟨tag, attrs, styles, text, children⟩ => by
    have htext := visibleText?_shown ⟨tag, attrs, styles, text, children⟩
    have hleaf := isLeaf_shown ⟨tag, attrs, styles, text, children⟩
    -- whether there is a body depends only on what is shown
    have hempty : (shown ⟨tag, attrs, styles, text, children⟩).isEmpty
        = isEmpty ⟨tag, attrs, styles, text, children⟩ := by
      unfold isEmpty
      rw [htext, hleaf]
    unfold shown at htext hempty ⊢
    unfold layout
    simp only [hempty, htext, layoutAll_shown dialect (level + 1) children]
    rfl

/-- ... the documents of forests. -/
theorem layoutAll_shown (dialect : Dialect) (level : Nat) :
    ∀ nodes : List Node, layoutAll dialect level (shownAll nodes) = layoutAll dialect level nodes
  | [] => rfl
  | node :: rest => by
    unfold shownAll layoutAll
    rw [layout_shown dialect level node, layoutAll_shown dialect level rest]

end

/-! ## §2. Rows. -/

/-- The indent of a level. -/
def indent (level : Nat) : List Char :=
  List.replicate (2 * level) ' '

/-- The rows of a node. -/
def rows (dialect : Dialect) (level : Nat) (node : Node) : List (List Char) :=
  (node.layout dialect level).map fun line => line.written.toList

/-- The rows of a forest. -/
def rowsAll (dialect : Dialect) (level : Nat) (nodes : List Node) : List (List Char) :=
  (layoutAll dialect level nodes).map fun line => line.written.toList

/-- How the first row of a node ends. -/
def closer (dialect : Dialect) (node : Node) : List Char :=
  if node.isEmpty then
    if dialect.closesEmpty then [' ', '/', '>'] else '>' :: '<' :: '/' :: (node.tag.toList ++ ['>'])
  else ['>']

/-- The row of a text, if it is shown. -/
def textRows (level : Nat) (text : Option String) : List (List Char) :=
  text.toList.map fun shown => indent (level + 1) ++ shown.toList

/-- The last row of a node with a body. -/
def closingRow (level : Nat) (tag : String) : List Char :=
  indent level ++ '<' :: '/' :: (tag.toList ++ ['>'])

theorem toList_written (line : LayoutLine) :
    line.written.toList = indent line.level ++ line.content.toList := by
  unfold LayoutLine.written indentation
  rw [String.toList_append, String.toList_ofList]
  rfl

theorem rowsAll_cons (dialect : Dialect) (level : Nat) (node : Node) (rest : List Node) :
    rowsAll dialect level (node :: rest)
      = node.rows dialect level ++ rowsAll dialect level rest := by
  rw [rowsAll, layoutAll, List.map_append]
  rfl

theorem isEmpty_iff (node : Node) :
    node.isEmpty = true ↔ node.visibleText? = none ∧ node.children = [] := by
  unfold isEmpty isLeaf
  simp

theorem layout_of_isEmpty {dialect : Dialect} {level : Nat} {node : Node}
    (h : node.isEmpty = true) : node.layout dialect level = [node.emptyLine dialect level] := by
  obtain ⟨tag, attrs, styles, text, children⟩ := node
  rw [layout]
  exact if_pos h

theorem layout_of_not_isEmpty {dialect : Dialect} {level : Nat} {node : Node}
    (h : ¬ node.isEmpty = true) :
    node.layout dialect level
      = ⟨level, .opening, dialect.opening node ++ ">"⟩ ::
        (node.visibleText?.toList.map fun shown => ⟨level + 1, .text, shown⟩) ++
        layoutAll dialect (level + 1) node.children ++
        [⟨level, .closing, "</" ++ node.tag ++ ">"⟩] := by
  obtain ⟨tag, attrs, styles, text, children⟩ := node
  rw [layout]
  exact if_neg h

/-- The rows of a node without a body. -/
theorem rows_of_isEmpty {dialect : Dialect} {level : Nat} {node : Node}
    (h : node.isEmpty = true) :
    node.rows dialect level
      = [indent level ++ ((dialect.opening node).toList ++ closer dialect node)] := by
  have hclosed : (if dialect.closesEmpty then " />" else "></" ++ node.tag ++ ">" : String).toList
      = closer dialect node := by
    unfold closer
    rw [if_pos h]
    split <;> simp
  rw [rows, layout_of_isEmpty h, List.map_cons, toList_written, emptyLine, String.toList_append,
    hclosed]
  rfl

/-- The rows of a node with a body. -/
theorem rows_of_not_isEmpty {dialect : Dialect} {level : Nat} {node : Node}
    (h : ¬ node.isEmpty = true) :
    node.rows dialect level
      = (indent level ++ ((dialect.opening node).toList ++ closer dialect node))
        :: (textRows level node.visibleText?
          ++ (rowsAll dialect (level + 1) node.children ++ [closingRow level node.tag])) := by
  rw [rows, layout_of_not_isEmpty h, closer, if_neg h]
  simp [textRows, rowsAll, closingRow, toList_written, Function.comp_def]

/-! ## §3. The first row. -/

/-- Every node has a first row, in which it opens. -/
theorem exists_rows_eq_cons (dialect : Dialect) (level : Nat) (node : Node) :
    ∃ more, node.rows dialect level
      = (indent level ++ ((dialect.opening node).toList ++ closer dialect node)) :: more := by
  by_cases h : node.isEmpty = true
  · exact ⟨[], rows_of_isEmpty h⟩
  · exact ⟨_, rows_of_not_isEmpty h⟩

theorem isCloser_closer (dialect : Dialect) (node : Node) :
    Dialect.IsCloser (closer dialect node) := by
  unfold closer
  split
  · split
    · exact ⟨['>'], Or.inr rfl⟩
    · exact ⟨_, Or.inl rfl⟩
  · exact ⟨[], Or.inl rfl⟩

theorem closer_eq_iff (dialect : Dialect) (node : Node) :
    closer dialect node = ['>'] ↔ node.isEmpty = false := by
  unfold closer
  cases node.isEmpty with
  | false => simp
  | true => cases dialect.closesEmpty <;> simp

/-- How the first row ends shows whether there is a body. -/
theorem isEmpty_iff_of_closer {dialect : Dialect} {node node' : Node}
    (h : closer dialect node = closer dialect node') :
    node.isEmpty = true ↔ node'.isEmpty = true := by
  have hbody : node.isEmpty = false ↔ node'.isEmpty = false := by
    rw [← closer_eq_iff dialect node, ← closer_eq_iff dialect node', h]
  rw [← Bool.not_eq_false, ← Bool.not_eq_false, hbody]

/-- The row opens an element of the level. -/
def OpensAt (level : Nat) (row : List Char) : Prop :=
  ∃ more, row = indent level ++ '<' :: more

theorem opensAt_first (dialect : Dialect) (level : Nat) (node : Node) (rest : List Char) :
    OpensAt level (indent level ++ ((dialect.opening node).toList ++ rest)) := by
  rw [Dialect.toList_opening]
  exact ⟨_, rfl⟩

/-- A row that closes an element opens none a level further in. -/
theorem not_opensAt_closingRow (level : Nat) (tag : String) :
    ¬ OpensAt (level + 1) (closingRow level tag) := by
  rintro ⟨more, h⟩
  have hindent : indent (level + 1) = indent level ++ [' ', ' '] := by
    unfold indent
    rw [Nat.mul_succ, ← List.replicate_append_replicate]
    rfl
  -- where the one row has its angle, the other is still indented
  rw [closingRow, hindent, List.append_assoc] at h
  have hangle : '<' = ' ' := (List.cons.inj (List.append_cancel_left h)).1
  exact absurd hangle (by decide)

/-! ## §4. One row for each line. -/

theorem newline_not_mem_indent (level : Nat) : '\n' ∉ indent level := by
  intro h
  exact absurd (List.eq_of_mem_replicate h) (by decide)

/-- Nothing that is written of a node holds a line feed. -/
structure OneLined (dialect : Dialect) (node : Node) : Prop where
  /-- The opening tag does not. -/
  opening : '\n' ∉ (dialect.opening node).toList
  /-- The text does not. -/
  text : ∀ text, node.text = some text → '\n' ∉ text.toList

variable {dialect : Dialect}

theorem OneLined.tag {node : Node} (h : OneLined dialect node) : '\n' ∉ node.tag.toList := by
  intro hmem
  apply h.opening
  rw [Dialect.toList_opening]
  exact List.mem_cons_of_mem _ (List.mem_append_left _ hmem)

theorem OneLined.firstRow {node : Node} (h : OneLined dialect node) (level : Nat) :
    indent level ++ ((dialect.opening node).toList ++ closer dialect node) ≠ []
      ∧ '\n' ∉ indent level ++ ((dialect.opening node).toList ++ closer dialect node) := by
  have hcloser : '\n' ∉ closer dialect node := by
    have htag := h.tag
    unfold closer
    split
    · split <;> simp [htag]
    · decide
  constructor
  · rw [Dialect.toList_opening]
    simp
  · simp [newline_not_mem_indent level, h.opening, hcloser]

theorem OneLined.textRow {node : Node} (h : OneLined dialect node) {level : Nat}
    {row : List Char} (hrow : row ∈ textRows level node.visibleText?) : row ≠ [] ∧ '\n' ∉ row := by
  obtain ⟨shown, hshown, rfl⟩ := List.mem_map.mp hrow
  have htext := h.text shown (Option.filter_eq_some_iff.mp (Option.mem_toList.mp hshown)).1
  exact ⟨by simp [indent], by simp [newline_not_mem_indent (level + 1), htext]⟩

theorem OneLined.closingRow {node : Node} (h : OneLined dialect node) (level : Nat) :
    closingRow level node.tag ≠ [] ∧ '\n' ∉ closingRow level node.tag := by
  unfold Node.closingRow
  exact ⟨by simp, by simp [newline_not_mem_indent level, h.tag]⟩

mutual

/-- **STEP**: the rows of a node are single rows if nothing in it holds a line feed. -/
theorem rows_oneLined :
    ∀ (node : Node) (level : Nat), (∀ entry ∈ node.levels level, OneLined dialect entry.2) →
      ∀ row ∈ node.rows dialect level, row ≠ [] ∧ '\n' ∉ row
  | ⟨tag, attrs, styles, text, children⟩, level, h, row, hrow => by
    have hnode : OneLined dialect ⟨tag, attrs, styles, text, children⟩ :=
      h (level, _) List.mem_cons_self
    by_cases hbody : isEmpty ⟨tag, attrs, styles, text, children⟩ = true
    · rw [rows_of_isEmpty hbody, List.mem_singleton] at hrow
      exact hrow ▸ hnode.firstRow level
    · rw [rows_of_not_isEmpty hbody] at hrow
      rcases List.mem_cons.mp hrow with rfl | hrow
      · exact hnode.firstRow level
      rcases List.mem_append.mp hrow with hrow | hrow
      · exact hnode.textRow hrow
      rcases List.mem_append.mp hrow with hrow | hrow
      · exact rowsAll_oneLined children (level + 1)
          (fun entry hentry => h entry (List.mem_cons_of_mem _ hentry)) row hrow
      · exact List.mem_singleton.mp hrow ▸ hnode.closingRow level

/-- **RUN**: ... the rows of a forest. -/
theorem rowsAll_oneLined :
    ∀ (nodes : List Node) (level : Nat),
      (∀ entry ∈ levelsAll level nodes, OneLined dialect entry.2) →
      ∀ row ∈ rowsAll dialect level nodes, row ≠ [] ∧ '\n' ∉ row
  | [], _, _, row, hrow => by cases hrow
  | node :: nodes, level, h, row, hrow => by
    rw [rowsAll_cons] at hrow
    rcases List.mem_append.mp hrow with hrow | hrow
    · exact rows_oneLined node level
        (fun entry hentry => h entry (List.mem_append_left _ hentry)) row hrow
    · exact rowsAll_oneLined nodes level
        (fun entry hentry => h entry (List.mem_append_right _ hentry)) row hrow

end

theorem toList_render (dialect : Dialect) (forest : List Node) :
    (dialect.render forest).toList = ['\n'].intercalate (rowsAll dialect 0 forest) := by
  unfold Dialect.render rowsAll
  rw [String.toList_intercalate, List.map_map]
  rfl

end Node

end MarkupShorthand
