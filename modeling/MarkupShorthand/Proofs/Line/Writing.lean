/-
  MarkupShorthand.Proofs.Line.Writing
  ───────────────────────────────────
  **A NODE THAT A LINE CAN EXPRESS IS READ FROM THE LINE THAT SPELLS IT OUT.**

  The line of a node has no word and no marks: attributes are written in
  brackets, one token for each, and blanks stand nowhere but in the indent.

      node_element_line    reading the line gives the node without its children
      depth_element_line   and the level
      isRow_line           the line is a row of a text
-/
import MarkupShorthand.Proofs.Line.Expressible

namespace MarkupShorthand

open Text

/-! ## §1. The parts. -/

/-- An attribute in brackets. -/
def attributePart (entry : String × String) (h : IsAttribute entry) : BracketPart where
  gap := []
  content := entry.1.toList ++ '=' :: entry.2.toList
  gap_blank := isGap_nil
  content_ne := by simp
  content_ok := by
    have hname : ']' ∉ entry.1.toList := h.name_free.not_mem (by decide)
    have hvalue : ']' ∉ entry.2.toList := h.value_free.not_mem (by decide)
    simp [hname, hvalue]

/-- A text in quotes. -/
def quotedPart (text : String) (h : FreeOf ['"', '\n', '\t'] text.toList) : TextPart where
  gap := []
  inner := []
  content := text.toList
  gap_blank := isGap_nil
  inner_blank := isGap_nil
  content_ok := h.not_mem (by decide)

theorem free_blockBody {styles : Styles} (h : ∀ entry ∈ styles.entries, IsStyle entry) :
    FreeOf ['}', '\n', '\t'] (Styles.blockBody styles.entries) := by
  refine FreeOf.append ?_ (by decide)
  intro c hc
  obtain ⟨entry, hentry, hc⟩ := List.mem_flatMap.mp hc
  have hproperty : FreeOf ['}', '\n', '\t'] entry.1.toList :=
    (h entry hentry).property_free.mono (by decide)
  have hvalue : FreeOf ['}', '\n', '\t'] entry.2.toList :=
    (h entry hentry).value_free.mono (by decide)
  exact ((hproperty.append (hvalue.cons (by decide))).append (by decide)) c hc

/-- A style block with all its declarations. -/
def blockPart (styles : Styles) (h : ∀ entry ∈ styles.entries, IsStyle entry) : StylePart where
  gap := []
  body := Styles.blockBody styles.entries
  gap_blank := isGap_nil
  body_ne := by simp [Styles.blockBody]
  body_ok := (free_blockBody h).not_mem (by decide)

/-- The line that spells a node out at a level. -/
def Node.line (level : Nat) (node : Node) (h : node.IsExpressible) : LineParts where
  indent := List.replicate (2 * level) ' '
  tag := node.tag.toList
  word := none
  marks := []
  brackets := node.attrs.entries.pmap attributePart h.attrs
  text := node.text.pmap quotedPart h.text
  style := node.styles.pmap blockPart h.styles
  trail := []
  indent_blank := by
    intro c hc
    rw [List.eq_of_mem_replicate hc]
    decide
  tag_ok := h.tag
  trail_blank := isGap_nil

/-! ## §2. What is read from the line. -/

theorem filterMap_pair?_attributeParts :
    ∀ (entries : List (String × String)) (h : ∀ entry ∈ entries, IsAttribute entry),
      ((entries.pmap attributePart h).map BracketPart.content).filterMap pair? = entries
  | [], _ => rfl
  | (name, value) :: entries, h => by
    have hentry := h (name, value) List.mem_cons_self
    have hpair : pair? (attributePart (name, value) hentry).content = some (name, value) :=
      (pair?_eq_some_iff _ name value).mpr
        ⟨rfl, hentry.name_free.not_mem (by decide), hentry.name_ne, hentry.value_ne⟩
    have hrest := filterMap_pair?_attributeParts entries
      fun other hother => h other (List.mem_cons_of_mem _ hother)
    rw [List.pmap_cons, List.map_cons, List.filterMap_cons_some hpair, hrest]

theorem attributes_element_line (level : Nat) (node : Node) (h : node.IsExpressible)
    (number : Nat) : ((node.line level h).element number).attributes = node.attrs := by
  unfold ElementLine.attributes
  rw [LineParts.tokens_element, LineParts.pairs_element]
  show OrderedMap.ofPairs
    (((node.attrs.entries.pmap attributePart h.attrs).map BracketPart.content).filterMap pair?) = _
  rw [filterMap_pair?_attributeParts]
  exact OrderedMap.ofPairs_entries node.attrs

/-- **READING THE LINE GIVES THE NODE** without what is below it. -/
theorem node_element_line (level : Nat) (node : Node) (h : node.IsExpressible) (number : Nat) :
    ((node.line level h).element number).node = node.stripped := by
  have hattrs := attributes_element_line level node h number
  obtain ⟨tag, attrs, styles, text, children⟩ := node
  have htext : (text.pmap quotedPart h.text).map (fun part => String.ofList part.content)
      = text := by
    cases text with
    | none => rfl
    | some text => simp [quotedPart]
  have hstyles : ((styles.pmap blockPart h.styles).map (fun part => String.ofList part.body)).map
      Styles.ofBlock = styles := by
    cases styles with
    | none => rfl
    | some styles =>
      have hback : Styles.ofBlock (.ofList (Styles.blockBody styles.entries)) = styles := by
        refine Styles.ofBlock_blockBody ?_
        intro entry hentry
        have hstyle := h.styles styles rfl entry hentry
        exact ⟨hstyle.declared, hstyle.property_free.not_mem (by decide),
          hstyle.value_free.not_mem (by decide)⟩
      simp [blockPart, hback]
  -- attributes, styles and text are read back one by one
  unfold ElementLine.node
  rw [hattrs]
  show Node.mk (String.ofList tag.toList) attrs
      (((styles.pmap blockPart h.styles).map fun part => String.ofList part.body).map
        Styles.ofBlock)
      ((text.pmap quotedPart h.text).map fun part => String.ofList part.content) []
    = Node.mk tag attrs styles text []
  rw [hstyles, htext, String.ofList_toList]

/-- **... AND THE LEVEL.** -/
theorem depth_element_line (level : Nat) (node : Node) (h : node.IsExpressible) (number : Nat) :
    ((node.line level h).element number).depth = level := by
  show (List.replicate (2 * level) ' ').length / 2 = level
  rw [List.length_replicate]
  omega

theorem read_line (level : Nat) (node : Node) (h : node.IsExpressible) (number : Nat) :
    ElementLine.read ⟨number, .ofList (node.line level h).chars⟩
      = .ok ((node.line level h).element number) :=
  read_of_even String.toList_ofList.symm ⟨level, rfl⟩ number

/-! ## §3. The line is a row. -/

theorem row_bracketsChars :
    ∀ (entries : List (String × String)) (h : ∀ entry ∈ entries, IsAttribute entry),
      EndsVisible (bracketsChars (entries.pmap attributePart h))
        ∧ FreeOf ['\n', '\t'] (bracketsChars (entries.pmap attributePart h))
  | [], _ => ⟨endsVisible_nil, freeOf_nil _⟩
  | entry :: entries, h => by
    have hentry := h entry List.mem_cons_self
    obtain ⟨hends, hfree⟩ := row_bracketsChars entries
      fun other hother => h other (List.mem_cons_of_mem _ hother)
    have htoken : bracketsChars (List.pmap attributePart (entry :: entries) h)
        = ('[' :: (entry.1.toList ++ '=' :: entry.2.toList) ++ [']'])
          ++ bracketsChars (entries.pmap attributePart
            fun other hother => h other (List.mem_cons_of_mem _ hother)) := by
      rw [List.pmap_cons, Shape.bracketsChars_cons]
      simp [attributePart]
    have hcontent : FreeOf ['\n', '\t'] (entry.1.toList ++ '=' :: entry.2.toList) :=
      (hentry.name_free.mono (by decide)).append
        ((hentry.value_free.mono (by decide)).cons (by decide))
    rw [htoken]
    exact ⟨(endsVisible_concat _ (by decide)).append hends,
      ((hcontent.cons (by decide)).append (by decide)).append hfree⟩

theorem row_textChars (text : Option String)
    (h : ∀ content, text = some content → FreeOf ['"', '\n', '\t'] content.toList) :
    EndsVisible (textChars (text.pmap quotedPart h))
      ∧ FreeOf ['\n', '\t'] (textChars (text.pmap quotedPart h)) := by
  cases text with
  | none => exact ⟨endsVisible_nil, freeOf_nil _⟩
  | some content =>
    have hcontent : FreeOf ['\n', '\t'] content.toList := (h content rfl).mono (by decide)
    show EndsVisible (('=' :: '"' :: content.toList) ++ ['"'])
      ∧ FreeOf ['\n', '\t'] (('=' :: '"' :: content.toList) ++ ['"'])
    exact ⟨endsVisible_concat _ (by decide),
      ((hcontent.cons (by decide)).cons (by decide)).append (by decide)⟩

theorem row_styleChars (styles : Option Styles)
    (h : ∀ block, styles = some block → ∀ entry ∈ block.entries, IsStyle entry) :
    EndsVisible (styleChars (styles.pmap blockPart h))
      ∧ FreeOf ['\n', '\t'] (styleChars (styles.pmap blockPart h)) := by
  cases styles with
  | none => exact ⟨endsVisible_nil, freeOf_nil _⟩
  | some block =>
    have hbody : FreeOf ['\n', '\t'] (Styles.blockBody block.entries) :=
      (free_blockBody (h block rfl)).mono (by decide)
    show EndsVisible ((':' :: '{' :: Styles.blockBody block.entries) ++ ['}'])
      ∧ FreeOf ['\n', '\t'] ((':' :: '{' :: Styles.blockBody block.entries) ++ ['}'])
    exact ⟨endsVisible_concat _ (by decide),
      ((hbody.cons (by decide)).cons (by decide)).append (by decide)⟩

/-- **THE LINE OF A NODE IS A ROW OF A TEXT.** -/
theorem isRow_line (level : Nat) (node : Node) (h : node.IsExpressible) :
    Source.IsRow (node.line level h).chars := by
  let opening := List.replicate (2 * level) ' ' ++ '<' :: node.tag.toList ++ ['>']
  have hchars : (node.line level h).chars = opening
      ++ (bracketsChars (node.attrs.entries.pmap attributePart h.attrs)
      ++ (textChars (node.text.pmap quotedPart h.text)
      ++ styleChars (node.styles.pmap blockPart h.styles))) := by
    simp [Node.line, LineParts.chars, LineParts.fromWord, LineParts.fromMarks,
      LineParts.fromBrackets, LineParts.fromText, LineParts.fromStyle, wordChars, marksChars,
      opening]
  have hindent : FreeOf ['\n', '\t'] (List.replicate (2 * level) ' ') := by
    intro c hc
    rw [List.eq_of_mem_replicate hc]
    decide
  have htag : FreeOf ['\n', '\t'] node.tag.toList := h.tag.isName.free.mono (by decide)
  have hopening : FreeOf ['\n', '\t'] opening :=
    (hindent.append (htag.cons (by decide))).append (by decide)
  obtain ⟨hbracketsEnds, hbrackets⟩ := row_bracketsChars node.attrs.entries h.attrs
  obtain ⟨htextEnds, htext⟩ := row_textChars node.text h.text
  obtain ⟨hstyleEnds, hstyle⟩ := row_styleChars node.styles h.styles
  -- the opening is not empty and ends visibly; every part behind it keeps that up
  rw [hchars]
  refine ⟨?_, ?_, ?_⟩
  · simp [opening]
  · exact (endsVisible_concat _ (by decide)).append
      (hbracketsEnds.append (htextEnds.append hstyleEnds))
  · exact hopening.append (hbrackets.append (htext.append hstyle))

end MarkupShorthand
