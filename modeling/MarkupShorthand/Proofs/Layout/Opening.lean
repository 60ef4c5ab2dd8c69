/-
  MarkupShorthand.Proofs.Layout.Opening
  ─────────────────────────────────────
  **AN OPENING TAG OF A CLEAN NODE SHOWS ITS TAG, ITS ATTRIBUTES AND ITS STYLE
  BLOCK.**

  Nothing in an opening tag is escaped, so a node must be clean:

      tag           a tag name
      attribute     a name without blanks, quotes, `=`, `/` and angles, which is
                    not the name of a style block in any dialect; a value
                    without quotes
      declaration   trimmed, without quotes and `;`

  What a dialect has to promise is `Dialect.Legible`.  Then the parts of the tag
  are told apart from left to right: a name ends at its `=`, a value at its
  quote, the attributes at what no attribute can begin with.
-/
import MarkupShorthand.Layout
import MarkupShorthand.Proofs.Line.Grammar
import MarkupShorthand.Proofs.StyleBlock
import MarkupShorthand.Proofs.Text.Joined

namespace MarkupShorthand

open Text

/-! ## §1. Clean nodes. -/

/-- An attribute that can be told apart in an opening tag. -/
structure IsPlainAttribute (entry : String × String) : Prop where
  /-- The name is not empty. -/
  name_ne : entry.1 ≠ ""
  /-- There is no blank in the name. -/
  name_visible : Misses isBlank entry.1.toList
  /-- There is nothing in the name that ends a name or a tag. -/
  name_free : FreeOf ['"', '=', '<', '>', '/'] entry.1.toList
  /-- The name is not that of a style block. -/
  name_ne_style : entry.1 ≠ "style"
  /-- The name is not another spelling of `class`. -/
  name_ne_className : entry.1 ≠ "className"
  /-- The value ends at the quote. -/
  value_free : FreeOf ['"', '\n'] entry.2.toList

/-- A declaration that can be told apart in a style attribute. -/
structure IsPlainStyle (entry : String × String) : Prop where
  /-- It is one declaration. -/
  declared : IsDeclaration entry
  /-- The property is in one piece. -/
  property_free : FreeOf [';', '"', '\n'] entry.1.toList
  /-- The value is in one piece. -/
  value_free : FreeOf [';', '"', '\n'] entry.2.toList

/-- All declarations can be told apart. -/
def Styles.Plain (styles : Styles) : Prop :=
  ∀ entry ∈ styles.entries, IsPlainStyle entry

/-- A node that can be told apart in a document, whatever is below it. -/
structure Node.IsClean (node : Node) : Prop where
  /-- The tag is a tag name. -/
  tag : IsTagName node.tag.toList
  /-- The attributes can be told apart. -/
  attrs : ∀ entry ∈ node.attrs.entries, IsPlainAttribute entry
  /-- The declarations can be told apart. -/
  styles : ∀ styles, node.styles = some styles → styles.Plain
  /-- The text is one line that does not look like a tag. -/
  text : ∀ text, node.text = some text →
    '\n' ∉ text.toList ∧ ¬ text.toList.head? = some '<'

theorem Node.IsClean.newline_not_mem_tag {node : Node} (h : node.IsClean) :
    '\n' ∉ node.tag.toList := by
  intro hmem
  exact absurd (h.tag.isName.2 _ hmem) (by decide)

/-! ## §2. Legible dialects. -/

/-- An attribute name as a dialect can write it. -/
structure IsWrittenName (name : List Char) : Prop where
  /-- It is not empty. -/
  ne_nil : name ≠ []
  /-- It ends at the `=` and cannot be taken for the end of a tag. -/
  free : FreeOf ['=', '/', '\n'] name
  /-- It is not the name of a style block. -/
  ne_style : name ≠ "style".toList

/-- A dialect whose attributes and style blocks can be told apart. -/
structure Dialect.Legible (dialect : Dialect) : Prop where
  /-- Attributes are given names. -/
  name_written : ∀ entry, IsPlainAttribute entry →
    IsWrittenName (dialect.attributeName entry.1).toList
  /-- Different attributes are given different names. -/
  name_injective : ∀ entry other, IsPlainAttribute entry → IsPlainAttribute other →
    dialect.attributeName entry.1 = dialect.attributeName other.1 → entry.1 = other.1
  /-- A style block begins with its name. -/
  style_named : ∀ styles, ∃ body,
    (dialect.styleAttribute styles).toList = "style".toList ++ '=' :: body
  /-- A style block shows what it holds and where it ends. -/
  style_delimited : SelfDelimiting Styles.Plain fun styles => (dialect.styleAttribute styles).toList
  /-- A style block stands on one line. -/
  style_line : ∀ styles, Styles.Plain styles → '\n' ∉ (dialect.styleAttribute styles).toList

namespace Dialect

/-! ## §3. The attributes. -/

/-- An attribute as it stands in the opening tag. -/
def attributeChars (dialect : Dialect) (entry : String × String) : List Char :=
  ' ' :: ((dialect.attributeName entry.1).toList ++ '=' :: '"' :: (entry.2.toList ++ ['"']))

/-- A style block as it stands in the opening tag. -/
def styleChars (dialect : Dialect) : Option Styles → List Char
  | none => []
  | some styles => ' ' :: (dialect.styleAttribute styles).toList

theorem toList_opening (dialect : Dialect) (node : Node) :
    (dialect.opening node).toList
      = '<' :: (node.tag.toList ++ (node.attrs.entries.flatMap dialect.attributeChars
        ++ dialect.styleChars node.styles)) := by
  obtain ⟨tag, attrs, styles, text, children⟩ := node
  have hentry : dialect.attributeChars = fun entry =>
      ' ' :: ((dialect.attributeName entry.1).toList ++ '=' :: '"' :: (entry.2.toList ++ ['"'])) :=
    rfl
  cases styles with
  | none =>
    simp [opening, attributeTexts, styleChars, hentry, String.toList_join, List.flatMap_def,
      Function.comp_def]
  | some styles =>
    simp [opening, attributeTexts, styleChars, hentry, String.toList_join, List.flatMap_def,
      Function.comp_def]

variable {dialect : Dialect}

/-- An attribute ends at the second quote. -/
theorem Legible.selfDelimiting_attributeChars (h : dialect.Legible) :
    SelfDelimiting IsPlainAttribute dialect.attributeChars := by
  intro entry other rest rest' hentry hother heq
  simp only [attributeChars, List.cons_append, List.append_assoc, List.nil_append] at heq
  -- the name up to the `=`, then the value up to the quote
  obtain ⟨hname, hvalueOn⟩ := cut_unique
    ((h.name_written entry hentry).free.not_mem (by decide))
    ((h.name_written other hother).free.not_mem (by decide)) (List.cons.inj heq).2
  obtain ⟨hvalue, hrest⟩ := cut_unique (hentry.value_free.not_mem (by decide))
    (hother.value_free.not_mem (by decide)) (List.cons.inj hvalueOn).2
  have hnames : entry.1 = other.1 :=
    h.name_injective entry other hentry hother (String.toList_inj.mp hname)
  exact ⟨Prod.ext hnames (String.toList_inj.mp hvalue), hrest⟩

/-- What ends an opening tag, or closes it at once. -/
def IsCloser (rest : List Char) : Prop :=
  ∃ more, rest = '>' :: more ∨ rest = ' ' :: '/' :: more

/-- Neither a style block nor the end of the tag can be taken for an attribute. -/
theorem Legible.noItem_styleChars (h : dialect.Legible) (styles : Option Styles)
    {rest : List Char} (hrest : IsCloser rest) :
    NoItem IsPlainAttribute dialect.attributeChars (dialect.styleChars styles ++ rest) := by
  intro entry more hentry heq
  have hname := h.name_written entry hentry
  simp only [attributeChars, List.cons_append, List.append_assoc] at heq
  cases styles with
  | none =>
    obtain ⟨closing, hclosing⟩ := hrest
    rcases hclosing with rfl | rfl
    · cases heq
    · -- a name does not begin with a slash
      have htail := (List.cons.inj heq).2
      cases hcs : (dialect.attributeName entry.1).toList with
      | nil => exact hname.ne_nil hcs
      | cons c cs =>
        rw [hcs] at htail
        have hc : '/' = c := (List.cons.inj htail).1
        refine hname.free.not_mem (c := '/') (by decide) ?_
        rw [hcs, hc]
        exact List.mem_cons_self
  | some styles =>
    obtain ⟨body, hbody⟩ := h.style_named styles
    simp only [styleChars, hbody, List.cons_append, List.append_assoc] at heq
    -- up to its `=`, the style block would have the name of the attribute
    obtain ⟨hstyle, -⟩ := cut_unique (by decide : '=' ∉ "style".toList)
      (hname.free.not_mem (by decide)) (List.cons.inj heq).2
    exact hname.ne_style hstyle.symm

/-! ## §4. The style block. -/

/-- The end of the tag cannot be taken for a style block. -/
theorem Legible.closer_ne_style (h : dialect.Legible) (styles : Styles) {rest : List Char}
    (hrest : IsCloser rest) (more : List Char) :
    ¬ rest = ' ' :: ((dialect.styleAttribute styles).toList ++ more) := by
  obtain ⟨body, hbody⟩ := h.style_named styles
  obtain ⟨closing, hclosing⟩ := hrest
  rw [hbody]
  rcases hclosing with rfl | rfl
  · intro heq
    cases heq
  · intro heq
    have hslash : '/' = 's' := (List.cons.inj (List.cons.inj heq).2).1
    exact absurd hslash (by decide)

theorem Legible.styleChars_inj (h : dialect.Legible) {styles styles' : Option Styles}
    {rest rest' : List Char} (hstyles : ∀ block, styles = some block → block.Plain)
    (hstyles' : ∀ block, styles' = some block → block.Plain)
    (hrest : IsCloser rest) (hrest' : IsCloser rest')
    (heq : dialect.styleChars styles ++ rest = dialect.styleChars styles' ++ rest') :
    styles = styles' ∧ rest = rest' := by
  cases styles with
  | none =>
    cases styles' with
    | none => exact ⟨rfl, heq⟩
    | some block' => exact absurd heq (h.closer_ne_style block' hrest rest')
  | some block =>
    cases styles' with
    | none => exact absurd heq.symm (h.closer_ne_style block hrest' rest)
    | some block' =>
      obtain ⟨hblock, hrests⟩ := h.style_delimited block block' rest rest'
        (hstyles block rfl) (hstyles' block' rfl) (List.cons.inj heq).2
      exact ⟨by rw [hblock], hrests⟩

/-! ## §5. The opening tag. -/

/-- **AN OPENING TAG SHOWS WHAT IS IN IT**, and where it ends. -/
theorem Legible.opening_inj (h : dialect.Legible) {node node' : Node} (hnode : node.IsClean)
    (hnode' : node'.IsClean) {rest rest' : List Char} (hrest : IsCloser rest)
    (hrest' : IsCloser rest')
    (heq : (dialect.opening node).toList ++ rest = (dialect.opening node').toList ++ rest') :
    node.tag = node'.tag ∧ node.attrs = node'.attrs ∧ node.styles = node'.styles
      ∧ rest = rest' := by
  have hstop : ∀ (entries : List (String × String)) (styles : Option Styles) {closing : List Char},
      IsCloser closing → Stops isNameChar
        (entries.flatMap dialect.attributeChars ++ (dialect.styleChars styles ++ closing)) := by
    rintro entries styles closing ⟨more, hmore⟩
    cases entries with
    | cons entry entries => exact stops_cons (by decide)
    | nil =>
      cases styles with
      | some block => exact stops_cons (by decide)
      | none => rcases hmore with rfl | rfl <;> exact stops_cons (by decide)
  -- the tag ends at the first blank or angle
  rw [toList_opening, toList_opening] at heq
  simp only [List.cons_append, List.append_assoc] at heq
  obtain ⟨htag, hattrsOn⟩ := run_unique hnode.tag.isName.2 hnode'.tag.isName.2
    (hstop _ _ hrest) (hstop _ _ hrest') (List.cons.inj heq).2
  -- the attributes end where none begins
  obtain ⟨hattrs, hstylesOn⟩ := h.selfDelimiting_attributeChars.flatMap_inj hnode.attrs hnode'.attrs
    (h.noItem_styleChars node.styles hrest) (h.noItem_styleChars node'.styles hrest') hattrsOn
  obtain ⟨hstyles, hrests⟩ := h.styleChars_inj hnode.styles hnode'.styles hrest hrest' hstylesOn
  exact ⟨String.toList_inj.mp htag, OrderedMap.ext hattrs, hstyles, hrests⟩

/-- An opening tag stands on one line if all that is written in it does. -/
theorem newline_not_mem_opening_of {node : Node} (htag : '\n' ∉ node.tag.toList)
    (hattrs : ∀ entry ∈ node.attrs.entries,
      '\n' ∉ (dialect.attributeName entry.1).toList ∧ '\n' ∉ entry.2.toList)
    (hstyles : ∀ styles, node.styles = some styles →
      '\n' ∉ (dialect.styleAttribute styles).toList) :
    '\n' ∉ (dialect.opening node).toList := by
  have hentries : '\n' ∉ node.attrs.entries.flatMap dialect.attributeChars := by
    intro hmem
    obtain ⟨entry, hentry, hmem⟩ := List.mem_flatMap.mp hmem
    obtain ⟨hname, hvalue⟩ := hattrs entry hentry
    simp [attributeChars, hname, hvalue] at hmem
  have hblock : '\n' ∉ dialect.styleChars node.styles := by
    cases hstyle : node.styles with
    | none => exact List.not_mem_nil
    | some styles => simp [styleChars, hstyles styles hstyle]
  rw [toList_opening]
  simp [htag, hentries, hblock]

/-- The opening tag of a clean node stands on one line. -/
theorem Legible.newline_not_mem_opening (h : dialect.Legible) {node : Node}
    (hnode : node.IsClean) : '\n' ∉ (dialect.opening node).toList := by
  refine newline_not_mem_opening_of hnode.newline_not_mem_tag ?_ ?_
  · intro entry hentry
    have hplain := hnode.attrs entry hentry
    exact ⟨(h.name_written entry hplain).free.not_mem (by decide),
      hplain.value_free.not_mem (by decide)⟩
  · exact fun styles hstyles => h.style_line styles (hnode.styles styles hstyles)

end Dialect

end MarkupShorthand
