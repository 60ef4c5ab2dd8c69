/-
  MarkupShorthand.Proofs.Layout.Injective
  ───────────────────────────────────────
  **A LEGIBLE DIALECT SHOWS ALL OF A CLEAN FOREST.**

      rows_inj           the rows of an element, and of those behind it, show the
                         element and where it ends
      rowsAll_inj        the same of all elements of a level
      render_eq_iff      so a document shows the forest

  The inductions are on one of the two forests; what stands behind it is
  arbitrary, but for one condition: it does not go on with an element of the
  level.  A closing row meets it, and so does the end of the document.
-/
import MarkupShorthand.Proofs.Layout.Rows

namespace MarkupShorthand

open Text

namespace Node

variable {dialect : Dialect}

/-! ## §1. Texts. -/

/-- A text that does not begin like a tag opens nothing. -/
theorem not_opensAt_text {level : Nat} {text : String} (h : ¬ text.toList.head? = some '<') :
    ¬ OpensAt level (indent level ++ text.toList) := by
  rintro ⟨more, hmore⟩
  apply h
  rw [List.append_cancel_left hmore]
  rfl

/-- What stands behind the first row shows whether there is a text, and which. -/
theorem textRows_inj {level : Nat} {text text' : Option String} {rest rest' : List (List Char)}
    (htext : ∀ shown, text = some shown → ¬ shown.toList.head? = some '<')
    (htext' : ∀ shown, text' = some shown → ¬ shown.toList.head? = some '<')
    (hrest : text = none → ∃ row more, rest = row :: more ∧ OpensAt (level + 1) row)
    (hrest' : text' = none → ∃ row more, rest' = row :: more ∧ OpensAt (level + 1) row)
    (heq : textRows level text ++ rest = textRows level text' ++ rest') :
    text = text' ∧ rest = rest' := by
  cases text with
  | none =>
    cases text' with
    | none => exact ⟨rfl, heq⟩
    | some shown' =>
      -- a child opens where the other forest has a text
      obtain ⟨row, more, rfl, hopens⟩ := hrest rfl
      rw [(List.cons.inj heq).1] at hopens
      exact absurd hopens (not_opensAt_text (htext' shown' rfl))
  | some shown =>
    cases text' with
    | none =>
      obtain ⟨row, more, rfl, hopens⟩ := hrest' rfl
      rw [← (List.cons.inj heq).1] at hopens
      exact absurd hopens (not_opensAt_text (htext shown rfl))
    | some shown' =>
      obtain ⟨hshown, hrests⟩ := List.cons.inj heq
      exact ⟨by rw [String.toList_inj.mp (List.append_cancel_left hshown)], hrests⟩

theorem visibleText?_clean {node : Node} (h : node.IsClean) :
    ∀ shown, node.visibleText? = some shown → '\n' ∉ shown.toList
      ∧ ¬ shown.toList.head? = some '<' := by
  intro shown hshown
  exact h.text shown (Option.filter_eq_some_iff.mp hshown).1

/-! ## §2. One element. -/

/-- Nodes that are the same but for what is no text are shown alike. -/
theorem shown_congr {node node' : Node} (htag : node.tag = node'.tag)
    (hattrs : node.attrs = node'.attrs) (hstyles : node.styles = node'.styles)
    (htext : node.visibleText? = node'.visibleText?)
    (hchildren : shownAll node.children = shownAll node'.children) : node.shown = node'.shown := by
  have hshown : ∀ other : Node, other.shown
      = ⟨other.tag, other.attrs, other.styles, other.visibleText?, shownAll other.children⟩ := by
    rintro ⟨tag, attrs, styles, text, children⟩
    rfl
  rw [hshown, hshown, htag, hattrs, hstyles, htext, hchildren]

/-- The first row of an element shows all but its text and its children, and
whether there are any. -/
theorem first_row_inj (h : dialect.Legible) {node node' : Node} (hnode : node.IsClean)
    (hnode' : node'.IsClean) {level : Nat} {rest rest' : List (List Char)}
    (heq : node.rows dialect level ++ rest = node'.rows dialect level ++ rest') :
    node.tag = node'.tag ∧ node.attrs = node'.attrs ∧ node.styles = node'.styles
      ∧ (node.isEmpty = true ↔ node'.isEmpty = true) := by
  obtain ⟨more, hrows⟩ := exists_rows_eq_cons dialect level node
  obtain ⟨more', hrows'⟩ := exists_rows_eq_cons dialect level node'
  rw [hrows, hrows'] at heq
  obtain ⟨htag, hattrs, hstyles, hcloser⟩ := h.opening_inj hnode hnode'
    (isCloser_closer dialect node) (isCloser_closer dialect node')
    (List.append_cancel_left (List.cons.inj heq).1)
  exact ⟨htag, hattrs, hstyles, isEmpty_iff_of_closer hcloser⟩

/-- An element without a text that has a body has children, the first of which
opens below it. -/
theorem opensAt_of_not_isEmpty {node : Node} (h : ¬ node.isEmpty = true)
    (htext : node.visibleText? = none) (level : Nat) (rest : List (List Char)) :
    ∃ row more, rowsAll dialect (level + 1) node.children ++ rest = row :: more
      ∧ OpensAt (level + 1) row := by
  cases hchildren : node.children with
  | nil => exact absurd ((isEmpty_iff node).mpr ⟨htext, hchildren⟩) h
  | cons child children =>
    obtain ⟨more, hrows⟩ := exists_rows_eq_cons dialect (level + 1) child
    rw [rowsAll_cons, hrows]
    exact ⟨_, _, rfl, opensAt_first dialect (level + 1) child _⟩

/-- The rows do not go on with an element of the level. -/
def NoOpening (level : Nat) (rest : List (List Char)) : Prop :=
  ∀ row, rest.head? = some row → ¬ OpensAt level row

theorem noOpening_closingRow (level : Nat) (tag : String) (rest : List (List Char)) :
    NoOpening (level + 1) (closingRow level tag :: rest) := by
  intro row hrow
  rw [List.head?_cons, Option.some.injEq] at hrow
  rw [← hrow]
  exact not_opensAt_closingRow level tag

/-! ## §3. All elements. -/

/-- All nodes from this one down are clean. -/
def CleanFrom (level : Nat) (node : Node) : Prop :=
  ∀ entry ∈ node.levels level, entry.2.IsClean

/-- All nodes of a forest are clean. -/
def CleanAll (level : Nat) (nodes : List Node) : Prop :=
  ∀ entry ∈ levelsAll level nodes, entry.2.IsClean

theorem CleanFrom.root {level : Nat} {node : Node} (h : node.CleanFrom level) : node.IsClean := by
  obtain ⟨tag, attrs, styles, text, children⟩ := node
  exact h (level, _) List.mem_cons_self

theorem CleanFrom.children {level : Nat} {node : Node} (h : node.CleanFrom level) :
    CleanAll (level + 1) node.children := by
  obtain ⟨tag, attrs, styles, text, children⟩ := node
  intro entry hentry
  exact h entry (List.mem_cons_of_mem _ hentry)

theorem CleanAll.cons {level : Nat} {node : Node} {rest : List Node}
    (h : CleanAll level (node :: rest)) : node.CleanFrom level ∧ CleanAll level rest :=
  ⟨fun entry hentry => h entry (List.mem_append_left _ hentry),
    fun entry hentry => h entry (List.mem_append_right _ hentry)⟩

/-- Elements of a level are not mistaken for what is behind the others. -/
theorem rowsAll_cons_ne {level : Nat} {rest : List (List Char)} (hrest : NoOpening level rest)
    (node : Node) (nodes : List Node) (more : List (List Char)) :
    ¬ rest = rowsAll dialect level (node :: nodes) ++ more := by
  rintro rfl
  obtain ⟨others, hrows⟩ := exists_rows_eq_cons dialect level node
  apply hrest _ _ (opensAt_first dialect level node (closer dialect node))
  rw [rowsAll_cons, hrows]
  rfl

mutual

/-- **STEP**: the rows of an element and of what is behind it show the element
and where it ends. -/
theorem rows_inj (h : dialect.Legible) :
    ∀ (node node' : Node) (level : Nat) (rest rest' : List (List Char)),
      node.CleanFrom level → node'.CleanFrom level →
      node.rows dialect level ++ rest = node'.rows dialect level ++ rest' →
      node.shown = node'.shown ∧ rest = rest'
  | ⟨tag, attrs, styles, text, children⟩, node', level, rest, rest', hclean, hclean', heq => by
    obtain ⟨htag, hattrs, hstyles, hempty⟩ := first_row_inj h hclean.root hclean'.root heq
    by_cases hbody : isEmpty ⟨tag, attrs, styles, text, children⟩ = true
    · -- one row each, and the first rows agree
      have hbody' := hempty.mp hbody
      obtain ⟨htext, hchildren⟩ := (isEmpty_iff _).mp hbody
      obtain ⟨htext', hchildren'⟩ := (isEmpty_iff _).mp hbody'
      rw [rows_of_isEmpty hbody, rows_of_isEmpty hbody'] at heq
      refine ⟨shown_congr htag hattrs hstyles (htext.trans htext'.symm) ?_, (List.cons.inj heq).2⟩
      rw [hchildren, hchildren']
    · have hbody' := fun hempty' => hbody (hempty.mpr hempty')
      rw [rows_of_not_isEmpty hbody, rows_of_not_isEmpty hbody'] at heq
      simp only [List.cons_append, List.append_assoc, List.nil_append] at heq
      -- the text first, then the children up to the closing row
      obtain ⟨htext, hchildrenOn⟩ := textRows_inj
        (fun shown hshown => (visibleText?_clean hclean.root shown hshown).2)
        (fun shown hshown => (visibleText?_clean hclean'.root shown hshown).2)
        (fun hnone => opensAt_of_not_isEmpty hbody hnone level _)
        (fun hnone => opensAt_of_not_isEmpty hbody' hnone level _) (List.cons.inj heq).2
      obtain ⟨hchildren, hclosing⟩ := rowsAll_inj h children node'.children (level + 1) _ _
        hclean.children hclean'.children (noOpening_closingRow level _ rest)
        (noOpening_closingRow level _ rest') hchildrenOn
      exact ⟨shown_congr htag hattrs hstyles htext hchildren, (List.cons.inj hclosing).2⟩

/-- **RUN**: ... of the elements of a level. -/
theorem rowsAll_inj (h : dialect.Legible) :
    ∀ (nodes nodes' : List Node) (level : Nat) (rest rest' : List (List Char)),
      CleanAll level nodes → CleanAll level nodes' →
      NoOpening level rest → NoOpening level rest' →
      rowsAll dialect level nodes ++ rest = rowsAll dialect level nodes' ++ rest' →
      shownAll nodes = shownAll nodes' ∧ rest = rest'
  | [], [], _, _, _, _, _, _, _, heq => ⟨rfl, heq⟩
  | [], node' :: nodes', _, _, rest', _, _, hrest, _, heq =>
    absurd heq (rowsAll_cons_ne hrest node' nodes' rest')
  | node :: nodes, [], _, rest, _, _, _, _, hrest', heq =>
    absurd heq.symm (rowsAll_cons_ne hrest' node nodes rest)
  | node :: nodes, node' :: nodes', level, rest, rest', hclean, hclean', hrest, hrest', heq => by
    rw [rowsAll_cons, rowsAll_cons, List.append_assoc, List.append_assoc] at heq
    obtain ⟨hnode, hnodesOn⟩ := rows_inj h node node' level _ _ hclean.cons.1 hclean'.cons.1 heq
    obtain ⟨hnodes, hrests⟩ := rowsAll_inj h nodes nodes' level rest rest' hclean.cons.2
      hclean'.cons.2 hrest hrest' hnodesOn
    unfold shownAll
    exact ⟨by rw [hnode, hnodes], hrests⟩

end

/-! ## §4. Documents. -/

/-- A clean node is written without line feeds. -/
theorem IsClean.oneLined (h : dialect.Legible) {node : Node} (hnode : node.IsClean) :
    OneLined dialect node where
  opening := h.newline_not_mem_opening hnode
  text := fun text htext => (hnode.text text htext).1

theorem rowsAll_clean (h : dialect.Legible) (nodes : List Node) (level : Nat)
    (hclean : CleanAll level nodes) :
    ∀ row ∈ rowsAll dialect level nodes, row ≠ [] ∧ '\n' ∉ row :=
  rowsAll_oneLined nodes level fun entry hentry => (hclean entry hentry).oneLined h

end Node

/-- **A LEGIBLE DIALECT SHOWS ALL OF A CLEAN FOREST** and nothing else: documents
are the same exactly if the forests are, an empty text being no text. -/
theorem Dialect.Legible.render_eq_iff {dialect : Dialect} (h : dialect.Legible)
    {forest forest' : List Node} (hclean : Node.CleanAll 0 forest)
    (hclean' : Node.CleanAll 0 forest') :
    dialect.render forest = dialect.render forest'
      ↔ Node.shownAll forest = Node.shownAll forest' := by
  constructor
  · intro heq
    have hchars := congrArg String.toList heq
    rw [Node.toList_render, Node.toList_render] at hchars
    have hrows := intercalate_pieces_inj (Node.rowsAll_clean h forest 0 hclean)
      (Node.rowsAll_clean h forest' 0 hclean') hchars
    have hend : Node.NoOpening 0 [] := by
      intro row hrow
      cases hrow
    -- nothing stands behind the last row, in particular no element
    refine (Node.rowsAll_inj h forest forest' 0 [] [] hclean hclean' hend hend ?_).1
    rw [hrows]
  · intro heq
    unfold Dialect.render
    rw [← Node.layoutAll_shown dialect 0 forest, heq, Node.layoutAll_shown]

end MarkupShorthand
