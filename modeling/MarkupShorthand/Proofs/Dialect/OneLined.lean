/-
  MarkupShorthand.Proofs.Dialect.OneLined
  ───────────────────────────────────────
  **WHAT HOLDS NO LINE FEED IS WRITTEN WITHOUT LINE FEEDS INSIDE ITS ROWS.**

  A dialect adds none (`Dialect.AddsNoLines`), so that the pieces of a rendered
  document are its rows, one for each line of its layout
  (`OutputFormat.pieces_renderForest_of`).  Nothing else is asked of the nodes
  (`Node.NewlineFree`): quotes, angles and equals signs may stand anywhere.  What is
  read from a source is of that kind, since no line of a source holds a line feed.
-/
import MarkupShorthand.Proofs.Dialect.Legible
import MarkupShorthand.Proofs.Layout.Composition
import MarkupShorthand.Proofs.Line.Expressible

namespace MarkupShorthand

/-! ## §1. Dialects. -/

/-- A dialect that writes no line feed where it was given none. -/
structure Dialect.AddsNoLines (dialect : Dialect) : Prop where
  /-- In the name of an attribute. -/
  name : ∀ name : String, '\n' ∉ name.toList → '\n' ∉ (dialect.attributeName name).toList
  /-- In a style block. -/
  style : ∀ styles : Styles,
    (∀ entry ∈ styles.entries, '\n' ∉ entry.1.toList ∧ '\n' ∉ entry.2.toList) →
    '\n' ∉ (dialect.styleAttribute styles).toList

theorem Dialect.addsNoLines_markup : markup.AddsNoLines where
  name := fun _ hname => hname
  style := fun _ hstyles => writesStyles_markup.line_of_items fun entry hentry =>
    newline_not_mem_markupChars (hstyles entry hentry).1 (hstyles entry hentry).2

/-- In a component template a name holds what it did, or is `className`. -/
theorem Dialect.not_mem_attributeName_component {c : Char} (hc : c ∉ "className".toList)
    {name : String} (h : c ∉ name.toList) : c ∉ (component.attributeName name).toList := by
  show c ∉ (if name = Attributes.classKey then "className" else name).toList
  split
  · exact hc
  · exact h

theorem Dialect.addsNoLines_component : component.AddsNoLines where
  name := fun _ hname => not_mem_attributeName_component (by decide) hname
  style := fun _ _ => writesStyles_component.line_of_items fun entry _ =>
    newline_not_mem_componentChars entry

theorem OutputFormat.addsNoLines_dialect (format : OutputFormat) :
    format.dialect.AddsNoLines := by
  cases format with
  | markup => exact Dialect.addsNoLines_markup
  | componentTemplate => exact Dialect.addsNoLines_component

/-! ## §2. Nodes without line feeds. -/

/-- Nothing in the node holds a line feed, whatever is below it. -/
structure Node.NewlineFree (node : Node) : Prop where
  /-- The tag does not. -/
  tag : '\n' ∉ node.tag.toList
  /-- No attribute does. -/
  attrs : ∀ entry ∈ node.attrs.entries, '\n' ∉ entry.1.toList ∧ '\n' ∉ entry.2.toList
  /-- No declaration does. -/
  styles : ∀ styles, node.styles = some styles →
    ∀ entry ∈ styles.entries, '\n' ∉ entry.1.toList ∧ '\n' ∉ entry.2.toList
  /-- The text does not. -/
  text : ∀ text, node.text = some text → '\n' ∉ text.toList

theorem Node.NewlineFree.oneLined {node : Node} (h : node.NewlineFree) {dialect : Dialect}
    (hdialect : dialect.AddsNoLines) : node.OneLined dialect where
  opening := by
    refine Dialect.newline_not_mem_opening_of h.tag ?_ ?_
    · intro entry hentry
      obtain ⟨hname, hvalue⟩ := h.attrs entry hentry
      exact ⟨hdialect.name entry.1 hname, hvalue⟩
    · exact fun styles hstyles => hdialect.style styles (h.styles styles hstyles)
  text := h.text

/-- A node that was read holds no line feed. -/
theorem Node.IsExpressible.newlineFree {node : Node} (h : node.IsExpressible) :
    node.NewlineFree where
  tag := h.tag.isName.free.not_mem (by decide)
  attrs := by
    intro entry hentry
    have hattribute := h.attrs entry hentry
    exact ⟨hattribute.name_free.not_mem (by decide), hattribute.value_free.not_mem (by decide)⟩
  styles := by
    intro styles hstyles entry hentry
    have hstyle := h.styles styles hstyles entry hentry
    exact ⟨hstyle.property_free.not_mem (by decide), hstyle.value_free.not_mem (by decide)⟩
  text := fun text htext => (h.text text htext).not_mem (by decide)

/-! ## §3. Documents without stray line feeds. -/

/-- **THE LINES OF A DOCUMENT ARE ITS ROWS** where nothing in the forest holds a line
feed. -/
theorem OutputFormat.pieces_renderForest_of (format : OutputFormat) {forest : List Node}
    (h : ∀ entry ∈ Node.levelsAll 0 forest, entry.2.NewlineFree) (hne : forest ≠ []) :
    Source.pieces (format.renderForest forest) = Node.rowsAll format.dialect 0 forest := by
  have honeLined : ∀ entry ∈ Node.levelsAll 0 forest, entry.2.OneLined format.dialect :=
    fun entry hentry => (h entry hentry).oneLined format.addsNoLines_dialect
  have hrendered : format.renderForest forest
      = Source.ofRows (Node.rowsAll format.dialect 0 forest) := by
    rw [← String.toList_inj, Source.ofRows, String.toList_ofList]
    exact Node.toList_render format.dialect forest
  rw [hrendered]
  exact Source.pieces_ofRows
    (fun row hrow => (Node.rowsAll_oneLined forest 0 honeLined row hrow).2)
    (Node.rowsAll_ne_nil 0 hne)

end MarkupShorthand
