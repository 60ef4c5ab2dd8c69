/-
  MarkupShorthand.Proofs.Dialect.Legible
  ──────────────────────────────────────
  **BOTH DIALECTS SHOW ALL OF A CLEAN FOREST.**

  A style block is its declarations with separators between them, in both
  dialects (`WritesStyles`).  They differ in how a declaration shows its end:

      markup       a declaration ends at its `;`, the block at its quote; names
                   are written as they are
      component    properties and values are JSON strings, which show where they
                   end; `class` gets a name that no clean attribute has
-/
import MarkupShorthand.OutputFormat
import MarkupShorthand.Proofs.Json.Quoted
import MarkupShorthand.Proofs.Layout.Injective

namespace MarkupShorthand

open Text

/-- A clean attribute can be written under its own name. -/
theorem IsPlainAttribute.isWrittenName {entry : String × String} (h : IsPlainAttribute entry) :
    IsWrittenName entry.1.toList where
  ne_nil := by
    intro hnil
    exact h.name_ne (String.toList_eq_nil_iff.mp hnil)
  free := by
    have hnewline : '\n' ∉ entry.1.toList := by
      intro hmem
      exact absurd (h.name_visible _ hmem) (by decide)
    exact (h.name_free.and_not_mem hnewline).mono (by decide)
  ne_style := by
    intro heq
    exact h.name_ne_style (String.toList_inj.mp heq)

namespace Dialect

/-! ## §1. Style blocks from their declarations. -/

/-- The dialect writes a style block as its declarations with separators between
them, and what closes the block cannot be taken for one more declaration. -/
structure WritesStyles (dialect : Dialect) (opening separator closing : List Char)
    (item : String × String → List Char) : Prop where
  /-- How a block is written. -/
  toList_style : ∀ styles, (dialect.styleAttribute styles).toList
    = opening ++ (separator.intercalate (styles.entries.map item) ++ closing)
  /-- A declaration shows where it ends. -/
  item_delimited : SelfDelimiting IsPlainStyle item
  /-- What closes the block is no declaration ... -/
  no_item : ∀ more, NoItem IsPlainStyle item (closing ++ more)
  /-- ... and no separator with a declaration. -/
  no_separated : ∀ more,
    NoItem IsPlainStyle (fun entry => separator ++ item entry) (closing ++ more)
  /-- Nothing of it is on another line. -/
  one_line : '\n' ∉ opening ∧ '\n' ∉ separator ∧ '\n' ∉ closing
  /-- No declaration is on more than one line. -/
  item_line : ∀ entry, IsPlainStyle entry → '\n' ∉ item entry

variable {dialect : Dialect} {opening separator closing : List Char}
  {item : String × String → List Char}

/-- Then a block shows what it holds and where it ends. -/
theorem WritesStyles.delimited (h : dialect.WritesStyles opening separator closing item) :
    SelfDelimiting Styles.Plain fun styles => (dialect.styleAttribute styles).toList := by
  intro styles styles' rest rest' hstyles hstyles' heq
  simp only [h.toList_style, List.append_assoc] at heq
  have hbody := List.append_cancel_left heq
  obtain ⟨hentries, hrest⟩ := h.item_delimited.intercalate_inj hstyles hstyles'
    (h.no_item rest) (h.no_item rest') (h.no_separated rest) (h.no_separated rest') hbody
  exact ⟨OrderedMap.ext hentries, List.append_cancel_left hrest⟩

/-- Then a block stands on one line if each declaration does. -/
theorem WritesStyles.line_of_items (h : dialect.WritesStyles opening separator closing item)
    {styles : Styles} (hitems : ∀ entry ∈ styles.entries, '\n' ∉ item entry) :
    '\n' ∉ (dialect.styleAttribute styles).toList := by
  obtain ⟨hopening, hseparator, hclosing⟩ := h.one_line
  have hentries : '\n' ∉ separator.intercalate (styles.entries.map item) := by
    refine not_mem_intercalate hseparator ?_
    intro chars hchars
    obtain ⟨entry, hentry, rfl⟩ := List.mem_map.mp hchars
    exact hitems entry hentry
  rw [h.toList_style]
  simp [hopening, hentries, hclosing]

theorem WritesStyles.line (h : dialect.WritesStyles opening separator closing item)
    {styles : Styles} (hstyles : styles.Plain) :
    '\n' ∉ (dialect.styleAttribute styles).toList :=
  h.line_of_items fun entry hentry => h.item_line entry (hstyles entry hentry)

/-! ## §2. Markup. -/

/-- A declaration as it stands in a style attribute. -/
def markupChars (entry : String × String) : List Char :=
  entry.1.toList ++ ':' :: ' ' :: (entry.2.toList ++ [';'])

theorem toList_markupStyleText (styles : Styles) :
    (markupStyleText styles).toList = [' '].intercalate (styles.entries.map markupChars) := by
  have hentry : String.toList ∘ markupDeclaration = markupChars := by
    funext entry
    simp [markupDeclaration, markupChars]
  rw [markupStyleText, String.toList_intercalate, List.map_map, hentry]
  rfl

theorem toList_markup_styleAttribute (styles : Styles) :
    (markup.styleAttribute styles).toList = ("style".toList ++ ['=', '"'])
      ++ ([' '].intercalate (styles.entries.map markupChars) ++ ['"']) := by
  show ("style=\"" ++ markupStyleText styles ++ "\"").toList = _
  rw [String.toList_append, String.toList_append, toList_markupStyleText]
  simp

/-- A declaration ends at its `;`. -/
theorem selfDelimiting_markupChars : SelfDelimiting IsPlainStyle markupChars := by
  intro entry other rest rest' hentry hother heq
  simp only [markupChars, List.cons_append, List.append_assoc, List.nil_append] at heq
  obtain ⟨hproperty, hvalueOn⟩ := cut_unique hentry.declared.property_free
    hother.declared.property_free heq
  obtain ⟨hvalue, hrest⟩ := cut_unique (hentry.value_free.not_mem (by decide))
    (hother.value_free.not_mem (by decide)) (List.cons.inj hvalueOn).2
  exact ⟨Prod.ext (String.toList_inj.mp hproperty) (String.toList_inj.mp hvalue), hrest⟩

/-- The quote behind the declarations begins none. -/
theorem noItem_markup_quote (rest : List Char) : NoItem IsPlainStyle markupChars ('"' :: rest) := by
  intro entry more hentry heq
  unfold markupChars at heq
  cases hproperty : entry.1.toList with
  | nil => exact hentry.declared.property_visible.ne_nil hproperty
  | cons c cs =>
    rw [hproperty] at heq
    have hc : '"' = c := (List.cons.inj heq).1
    refine hentry.property_free.not_mem (c := '"') (by decide) ?_
    rw [hproperty, hc]
    exact List.mem_cons_self

theorem newline_not_mem_markupChars {entry : String × String} (hproperty : '\n' ∉ entry.1.toList)
    (hvalue : '\n' ∉ entry.2.toList) : '\n' ∉ markupChars entry := by
  simp [markupChars, hproperty, hvalue]

theorem writesStyles_markup :
    markup.WritesStyles ("style".toList ++ ['=', '"']) [' '] ['"'] markupChars where
  toList_style := toList_markup_styleAttribute
  item_delimited := selfDelimiting_markupChars
  no_item := noItem_markup_quote
  no_separated := by
    intro rest entry more _ heq
    cases heq
  one_line := by decide
  item_line := fun _ hentry => newline_not_mem_markupChars
    (hentry.property_free.not_mem (by decide)) (hentry.value_free.not_mem (by decide))

/-- **MARKUP IS LEGIBLE.** -/
theorem legible_markup : markup.Legible where
  name_written := fun _ hentry => hentry.isWrittenName
  name_injective := fun _ _ _ _ heq => heq
  style_named := by
    intro styles
    rw [toList_markup_styleAttribute, List.append_assoc]
    exact ⟨_, rfl⟩
  style_delimited := writesStyles_markup.delimited
  style_line := fun _ hstyles => writesStyles_markup.line hstyles

/-! ## §3. Component templates. -/

/-- A declaration as it stands in a style object. -/
def componentChars (entry : String × String) : List Char :=
  Json.quotedChars entry.1.toList ++ ':' :: ' ' :: Json.quotedChars entry.2.toList

theorem toList_component_styleAttribute (styles : Styles) :
    (component.styleAttribute styles).toList = ("style".toList ++ ['=', '\x7b', '\x7b', ' '])
      ++ ([',', ' '].intercalate (styles.entries.map componentChars) ++ [' ', '\x7d', '\x7d']) := by
  have hentry : String.toList ∘ componentDeclaration = componentChars := by
    funext entry
    simp [componentDeclaration, componentChars, Json.quoted]
  show ("style=\x7b\x7b " ++ componentStyleText styles ++ " \x7d\x7d").toList = _
  rw [String.toList_append, String.toList_append, componentStyleText, String.toList_intercalate,
    List.map_map, hentry]
  simp

/-- A declaration ends where its second string does. -/
theorem selfDelimiting_componentChars : SelfDelimiting IsPlainStyle componentChars := by
  intro entry other rest rest' _ _ heq
  simp only [componentChars, List.cons_append, List.append_assoc] at heq
  obtain ⟨hproperty, hvalueOn⟩ := Json.quotedChars_append_inj heq
  obtain ⟨hvalue, hrest⟩ := Json.quotedChars_append_inj
    (List.cons.inj (List.cons.inj hvalueOn).2).2
  exact ⟨Prod.ext (String.toList_inj.mp hproperty) (String.toList_inj.mp hvalue), hrest⟩

/-- A JSON string holds no line feed, whatever it says. -/
theorem newline_not_mem_componentChars (entry : String × String) : '\n' ∉ componentChars entry := by
  simp [componentChars, Json.newline_not_mem_quotedChars]

theorem writesStyles_component :
    component.WritesStyles ("style".toList ++ ['=', '\x7b', '\x7b', ' ']) [',', ' ']
      [' ', '\x7d', '\x7d'] componentChars where
  toList_style := toList_component_styleAttribute
  item_delimited := selfDelimiting_componentChars
  -- a string begins with a quote, a separator with a comma, and the end with a space
  no_item := by
    intro rest entry more _ heq
    cases heq
  no_separated := by
    intro rest entry more _ heq
    cases heq
  one_line := by decide
  item_line := fun entry _ => newline_not_mem_componentChars entry

/-- **COMPONENT TEMPLATES ARE LEGIBLE.** -/
theorem legible_component : component.Legible where
  name_written := by
    intro entry hentry
    show IsWrittenName (if entry.1 = Attributes.classKey then "className" else entry.1).toList
    split
    · exact ⟨by decide, by decide, by decide⟩
    · exact hentry.isWrittenName
  name_injective := by
    intro entry other hentry hother heq
    replace heq : (if entry.1 = Attributes.classKey then "className" else entry.1)
      = if other.1 = Attributes.classKey then "className" else other.1 := heq
    -- a clean attribute is not called what `class` is called here
    split at heq
    · next hclass =>
      split at heq
      · next hclass' => rw [hclass, hclass']
      · exact absurd heq.symm hother.name_ne_className
    · split at heq
      · exact absurd heq hentry.name_ne_className
      · exact heq
  style_named := by
    intro styles
    rw [toList_component_styleAttribute, List.append_assoc]
    exact ⟨_, rfl⟩
  style_delimited := writesStyles_component.delimited
  style_line := fun _ hstyles => writesStyles_component.line hstyles

end Dialect

/-! ## §4. Both formats. -/

/-- Every format is written in a legible dialect. -/
theorem OutputFormat.legible_dialect (format : OutputFormat) : format.dialect.Legible := by
  cases format with
  | markup => exact Dialect.legible_markup
  | componentTemplate => exact Dialect.legible_component

/-- **RENDERING LOSES NOTHING ON CLEAN FORESTS.**  In each format two forests of
clean nodes have the same document exactly if they are equal, attributes, styles
and children in their order and an absent style block not the same as an empty
one, where a text that is empty is not told from one that is absent. -/
theorem OutputFormat.renderForest_eq_iff (format : OutputFormat) {forest forest' : List Node}
    (hclean : ∀ entry ∈ Node.levelsAll 0 forest, entry.2.IsClean)
    (hclean' : ∀ entry ∈ Node.levelsAll 0 forest', entry.2.IsClean) :
    format.renderForest forest = format.renderForest forest'
      ↔ Node.shownAll forest = Node.shownAll forest' :=
  format.legible_dialect.render_eq_iff hclean hclean'

/-- A text that is written like an element is not taken for a child, whatever the
attribute and the declaration in front of it hold. -/
theorem OutputFormat.renderForest_ne_of_text_like_element :
    let attrs : Attributes := .ofPairs [("class", "a > b /")]
    let styles : Styles := .ofPairs [("content", "\x7d\x7d />")]
    let forest : List Node := [⟨"a", attrs, some styles, some "  <b></b>", []⟩]
    let forest' : List Node := [⟨"a", attrs, some styles, none, [{ tag := "b" }]⟩]
    (∀ entry ∈ Node.levelsAll 0 forest, entry.2.IsClean)
      ∧ (∀ entry ∈ Node.levelsAll 0 forest', entry.2.IsClean)
      ∧ OutputFormat.markup.renderForest forest ≠ OutputFormat.markup.renderForest forest'
      ∧ OutputFormat.componentTemplate.renderForest forest
          ≠ OutputFormat.componentTemplate.renderForest forest' := by
  intro attrs styles forest forest'
  have hattrs : ∀ entry ∈ attrs.entries, IsPlainAttribute entry := by
    intro entry hentry
    rw [List.mem_singleton.mp hentry]
    exact ⟨by decide, by decide, by decide, by decide, by decide, by decide⟩
  have hstyles : ∀ block, some styles = some block → block.Plain := by
    rintro _ ⟨⟩ entry hentry
    rw [List.mem_singleton.mp hentry]
    exact ⟨⟨⟨by decide, by decide, by decide⟩, by decide, ⟨by decide, by decide, by decide⟩⟩,
      by decide, by decide⟩
  have hclean : ∀ entry ∈ Node.levelsAll 0 forest, entry.2.IsClean := by
    intro entry hentry
    rw [List.mem_singleton.mp hentry]
    refine ⟨by decide, hattrs, hstyles, ?_⟩
    rintro _ ⟨⟩
    decide
  have hclean' : ∀ entry ∈ Node.levelsAll 0 forest', entry.2.IsClean := by
    intro entry hentry
    rcases List.mem_cons.mp hentry with rfl | hentry
    · exact ⟨by decide, hattrs, hstyles, by rintro _ ⟨⟩⟩
    · rw [List.mem_singleton.mp hentry]
      refine ⟨by decide, ?_, by rintro _ ⟨⟩, by rintro _ ⟨⟩⟩
      intro other hother
      cases hother
  have hshown : Node.shownAll forest ≠ Node.shownAll forest' := by
    simp [forest, forest', Node.shownAll, Node.shown]
  exact ⟨hclean, hclean', fun heq => hshown ((renderForest_eq_iff .markup hclean hclean').mp heq),
    fun heq => hshown ((renderForest_eq_iff .componentTemplate hclean hclean').mp heq)⟩

end MarkupShorthand
