/-
  MarkupShorthand.Proofs.OutputFormat.Alignment
  ─────────────────────────────────────────────
  **BOTH DOCUMENTS OF A FOREST HAVE THE SAME LINES IN THE SAME PLACES; THEY DIFFER
  IN WHAT OPENING TAGS AND ELEMENTS WITHOUT A BODY SAY.**

      pieces_origins     line by line, a document is what its format makes of the
                         origins of the forest
      opening_eq         without a class and a style block, both formats open a node
                         alike
      lines_aligned      both together

  The formats differ in three things: the name of the class, the style block and
  how an element without a body is closed.  Where a forest has none of them its two
  documents are the same text.
-/
import MarkupShorthand.Proofs.Document.Rendering
import MarkupShorthand.Proofs.Layout.Origins

namespace MarkupShorthand

/-! ## §1. Documents, line by line. -/

/-- Each line of a document is that of its origin, behind the indent of its level. -/
theorem OutputFormat.pieces_origins (format : OutputFormat) {forest : List Node}
    (hne : forest ≠ []) (hfree : ∀ entry ∈ Node.levelsAll 0 forest, entry.2.NewlineFree) :
    Source.pieces (format.renderForest forest)
      = (Node.originsAll 0 0 forest).map fun origin =>
          List.replicate (2 * origin.depth) ' ' ++ (origin.content format.dialect).toList := by
  rw [format.pieces_renderForest_of hfree hne, Node.rowsAll,
    Node.layoutAll_eq_origins format.dialect forest 0 0, List.map_map]
  exact List.map_congr_left fun origin _ => Node.toList_written (origin.line format.dialect)

/-! ## §2. Nodes that both formats write alike. -/

theorem Dialect.opening_eq {node : Node} (hclass : Attributes.classKey ∉ node.attrs.keys)
    (hstyles : node.styles = none) : markup.opening node = component.opening node := by
  have htexts : markup.attributeTexts node = component.attributeTexts node := by
    unfold attributeTexts
    rw [hstyles]
    refine congrArg (· ++ []) (List.map_congr_left fun entry hentry => ?_)
    -- only the class has another name
    have hother : ¬ entry.1 = Attributes.classKey :=
      fun h => hclass (h ▸ List.mem_map_of_mem hentry)
    have hname : component.attributeName entry.1 = entry.1 := if_neg hother
    show entry.1 ++ "=\"" ++ entry.2 ++ "\""
      = component.attributeName entry.1 ++ "=\"" ++ entry.2 ++ "\""
    rw [hname]
  unfold opening
  rw [htexts]

/-- A part of such a node says the same in both formats, unless the node has no body. -/
theorem LineOrigin.content_eq_of_no_class {origin : LineOrigin}
    (hclass : Attributes.classKey ∉ origin.node.attrs.keys) (hstyles : origin.node.styles = none)
    (hpart : origin.part ≠ .empty) : origin.content .markup = origin.content .component := by
  cases h : origin.part with
  | empty => exact absurd h hpart
  | opening =>
    unfold content
    rw [h]
    exact congrArg (· ++ ">") (Dialect.opening_eq hclass hstyles)
  | text => exact content_eq (Or.inl h) _ _
  | closing => exact content_eq (Or.inr h) _ _

/-- A forest of such nodes, all with a body, has the same lines in both formats. -/
theorem Node.layoutAll_eq_of_no_class {forest : List Node}
    (h : ∀ entry ∈ levelsAll 0 forest, Attributes.classKey ∉ entry.2.attrs.keys
      ∧ entry.2.styles = none ∧ entry.2.isEmpty = false) :
    layoutAll .markup 0 forest = layoutAll .component 0 forest := by
  rw [layoutAll_eq_origins _ forest 0 0, layoutAll_eq_origins _ forest 0 0]
  refine List.map_congr_left fun origin horigin => ?_
  obtain ⟨-, hpart⟩ := names_of_mem_originsAll forest 0 0 origin horigin
  obtain ⟨hclass, hstyles, hbody⟩ :=
    h _ (List.mem_of_getElem? (getElem?_of_mem_originsAll horigin))
  -- an element with a body has no line for an empty one
  have hnotEmpty : origin.part ≠ .empty := by
    intro hempty
    rw [(eq_empty_iff_of_mem_parts hpart).mp hempty] at hbody
    cases hbody
  unfold LineOrigin.line
  rw [LineOrigin.content_eq_of_no_class hclass hstyles hnotEmpty]

/-! ## §3. Both documents. -/

/-- **THE DOCUMENTS OF A FOREST ARE ALIGNED** if nothing in it holds a line feed.  In
each format the lines are those of the same origins, as many as the nodes have lines of
their own.  An origin is a part of a node in the forest, at the level of this node or,
for a text, a level further in; an element without a body is one part.  Texts and
closing tags say the same in every format.  If moreover no node has a class or a style
block and every node has a body, both documents are the same text. -/
theorem OutputFormat.lines_aligned {forest : List Node} (hne : forest ≠ [])
    (hfree : ∀ entry ∈ Node.levelsAll 0 forest, entry.2.NewlineFree) :
    (∀ format : OutputFormat,
        Source.pieces (format.renderForest forest)
            = ((Node.originsAll 0 0 forest).map fun origin =>
                List.replicate (2 * origin.depth) ' ' ++ (origin.content format.dialect).toList)
          ∧ (Source.pieces (format.renderForest forest)).length
            = ((Node.levelsAll 0 forest).map fun entry => entry.2.lineCount).sum)
      ∧ (∀ origin ∈ Node.originsAll 0 0 forest,
          (Node.levelsAll 0 forest)[origin.place]? = some (origin.level, origin.node)
            ∧ origin.depth = (if origin.part = .text then origin.level + 1 else origin.level)
            ∧ (origin.part = .empty ↔ origin.node.isEmpty = true)
            ∧ (origin.part = .text → ∀ format : OutputFormat,
                origin.node.visibleText? = some (origin.content format.dialect))
            ∧ (origin.part = .closing → ∀ format : OutputFormat,
                origin.content format.dialect = "</" ++ origin.node.tag ++ ">"))
      ∧ ((∀ entry ∈ Node.levelsAll 0 forest, Attributes.classKey ∉ entry.2.attrs.keys
            ∧ entry.2.styles = none ∧ entry.2.isEmpty = false) →
          OutputFormat.markup.renderForest forest
            = OutputFormat.componentTemplate.renderForest forest) := by
  refine ⟨fun format => ?_, fun origin horigin => ?_, fun hplain => ?_⟩
  · have hlines := format.pieces_origins hne hfree
    refine ⟨hlines, ?_⟩
    rw [hlines, List.length_map, Node.length_originsAll]
  · obtain ⟨-, hpart⟩ := Node.names_of_mem_originsAll forest 0 0 origin horigin
    refine ⟨Node.getElem?_of_mem_originsAll horigin, origin.depth_eq,
      Node.eq_empty_iff_of_mem_parts hpart, fun htext format => ?_, fun hclosing format => ?_⟩
    · rw [htext] at hpart
      obtain ⟨shown, hshown⟩ := Node.exists_text_of_mem_parts hpart
      rw [LineOrigin.content, htext, hshown]
      rfl
    · rw [LineOrigin.content, hclosing]
  · show Dialect.markup.render forest = Dialect.component.render forest
    unfold Dialect.render
    rw [Node.layoutAll_eq_of_no_class hplain]

/-- A class, a style block, an element without a body, and one that only has a child;
and a forest without the first three. -/
theorem OutputFormat.lines_aligned_around_empty_element :
    let source := "<ul> menu :\x7ba: b\x7d\n  <li>=\"x\"\n  <li>\n<p>=\"\"\n  <b>"
    let forest : List Node :=
      [{ tag := "ul", attrs := (∅ : Attributes).set "class" "menu"
         styles := some (Styles.ofBlock "a: b")
         children := [{ tag := "li", text := some "x" }, { tag := "li" }] },
       { tag := "p", text := some "", children := [{ tag := "b" }] }]
    let plainSource := "<p>\n  <b>#k=\"x\""
    let plain : List Node :=
      [{ tag := "p"
         children := [{ tag := "b", attrs := (∅ : Attributes).set "id" "k", text := some "x" }] }]
    Document.parse source = .ok forest
      ∧ (∀ format : OutputFormat, (Source.pieces (format.renderForest forest)).length = 9)
      ∧ Document.parse plainSource = .ok plain
      ∧ OutputFormat.markup.renderForest plain
          = OutputFormat.componentTemplate.renderForest plain := by
  intro source forest plainSource plain
  have hparse : Document.parse source = .ok forest := by decide +kernel
  have hplain : Document.parse plainSource = .ok plain := by decide +kernel
  -- what is read from a source holds no line feed
  obtain ⟨hlines, -, -⟩ :=
    lines_aligned (List.cons_ne_nil _ _) (Document.newlineFree_of_parse hparse)
  obtain ⟨-, -, hsame⟩ :=
    lines_aligned (List.cons_ne_nil _ _) (Document.newlineFree_of_parse hplain)
  refine ⟨hparse, fun format => (hlines format).2.trans (by decide +kernel), hplain, hsame ?_⟩
  decide +kernel

end MarkupShorthand
