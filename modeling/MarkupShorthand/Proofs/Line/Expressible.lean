/-
  MarkupShorthand.Proofs.Line.Expressible
  ───────────────────────────────────────
  **THE NODES THAT A LINE CAN EXPRESS.**

  A line of the grammar gives its node a tag, attributes, a style block and a
  text.  Each comes from a part of the line that is closed by a character which
  then cannot be in it; no line holds a tab or a line feed.

      names and values of attributes    no `]`, and names no `=`
      text                              no quote
      properties and values of styles   no `;` and no closing brace, properties
                                        no colon, both trimmed

  Main fact: `LineParts.expressible_node` — what is read from a line is such a
  node.
-/
import MarkupShorthand.Proofs.Line.Reading
import MarkupShorthand.Proofs.Line.Tokens
import MarkupShorthand.Proofs.Source
import MarkupShorthand.Proofs.StyleBlock

namespace MarkupShorthand

open Text

/-! ## §1. What a line can express. -/

/-- An attribute that a bracketed token can express. -/
structure IsAttribute (entry : String × String) : Prop where
  /-- The name is not empty. -/
  name_ne : entry.1 ≠ ""
  /-- The name ends at the first `=`. -/
  name_free : FreeOf [']', '=', '\n', '\t'] entry.1.toList
  /-- The value is not empty. -/
  value_ne : entry.2 ≠ ""
  /-- The value ends at the bracket. -/
  value_free : FreeOf [']', '\n', '\t'] entry.2.toList

/-- A declaration that a style block can express. -/
structure IsStyle (entry : String × String) : Prop where
  /-- It is one declaration. -/
  declared : IsDeclaration entry
  /-- The property is in one piece of the block. -/
  property_free : FreeOf [';', '}', '\n', '\t'] entry.1.toList
  /-- The value is in one piece of the block. -/
  value_free : FreeOf [';', '}', '\n', '\t'] entry.2.toList

/-- A node that a line can express, whatever is below it.  That no attribute
and no property occurs twice is part of what an `OrderedMap` is. -/
structure Node.IsExpressible (node : Node) : Prop where
  /-- The tag is a tag name. -/
  tag : IsTagName node.tag.toList
  /-- The attributes can be written in brackets. -/
  attrs : ∀ entry ∈ node.attrs.entries, IsAttribute entry
  /-- The text can be quoted. -/
  text : ∀ text, node.text = some text → FreeOf ['"', '\n', '\t'] text.toList
  /-- The declarations can be written in a block. -/
  styles : ∀ styles, node.styles = some styles → ∀ entry ∈ styles.entries, IsStyle entry

/-! ## §2. Attributes of a line. -/

theorem IsName.free {cs : List Char} (h : IsName cs) : FreeOf [']', '=', '\n', '\t'] cs := by
  intro c hc hbanned
  have hname := h.2 c hc
  simp only [List.mem_cons, List.not_mem_nil, or_false] at hbanned
  rcases hbanned with rfl | rfl | rfl | rfl <;> revert hname <;> decide

theorem IsName.ofList_ne {cs : List Char} (h : IsName cs) : String.ofList cs ≠ "" := by
  intro e
  exact h.1 (String.ofList_eq_empty_iff.mp e)

/-- A name can be the value of an attribute. -/
theorem IsName.isAttribute {cs : List Char} (h : IsName cs) {name : String} (hne : name ≠ "")
    (hfree : FreeOf [']', '=', '\n', '\t'] name.toList) :
    IsAttribute (name, .ofList cs) where
  name_ne := hne
  name_free := hfree
  value_ne := h.ofList_ne
  value_free := by
    rw [String.toList_ofList]
    exact h.free.mono (by decide)

/-- Every attribute can be expressed. -/
def Attributes.Expressible (attrs : Attributes) : Prop :=
  ∀ entry ∈ attrs.entries, IsAttribute entry

theorem Attributes.expressible_empty : Attributes.Expressible ∅ := by
  intro entry h
  cases h

theorem Attributes.Expressible.set {attrs : Attributes} (h : attrs.Expressible)
    {name value : String} (hentry : IsAttribute (name, value)) :
    Attributes.Expressible (attrs.set name value) := by
  intro entry hmem
  rcases OrderedMap.mem_entries_set hmem with rfl | hmem
  · exact hentry
  · exact h entry hmem

/-- A class word goes behind the others with a blank in between. -/
theorem Attributes.Expressible.addClass {attrs : Attributes} (h : attrs.Expressible)
    {cs : List Char} (hname : IsName cs) :
    Attributes.Expressible (attrs.addClass (.ofList cs)) := by
  have hword : IsAttribute (Attributes.classKey, .ofList cs) :=
    hname.isAttribute (by decide) (by decide)
  unfold Attributes.addClass
  split
  · exact h.set hword
  · next held hheld =>
    have hold : IsAttribute (Attributes.classKey, held) :=
      h _ (OrderedMap.mem_entries_of_get? hheld)
    -- the class that is held is not empty, so the word goes behind it
    refine h.set ⟨hword.name_ne, hword.name_free, ?_, ?_⟩
    · rw [if_neg hold.value_ne]
      intro e
      have hnil := congrArg String.toList e
      simp at hnil
    · rw [if_neg hold.value_ne, String.toList_append, String.toList_append]
      exact (hold.value_free.append (by decide)).append hword.value_free

/-- **STEP**: a mark. -/
theorem Attributes.Expressible.addMark {attrs : Attributes} (h : attrs.Expressible)
    (part : MarkPart) : Attributes.Expressible (ElementLine.addMark attrs part.mark) := by
  obtain ⟨sigil, name, hsigil, hname⟩ := part
  rcases (isSigil_iff sigil).mp hsigil with rfl | rfl
  · exact h.set (hname.isAttribute (by decide) (by decide))
  · exact h.addClass hname

/-- **RUN**: all marks. -/
theorem Attributes.Expressible.addMarks :
    ∀ (marks : List MarkPart) {attrs : Attributes}, attrs.Expressible →
      Attributes.Expressible ((marks.map MarkPart.mark).foldl ElementLine.addMark attrs)
  | [], _, h => h
  | part :: marks, _, h => Attributes.Expressible.addMarks marks (h.addMark part)

namespace LineParts

theorem tokens_element (parts : LineParts) (number : Nat) :
    (parts.element number).tokens = parts.marks.map MarkPart.mark := by
  show scanMarks (String.ofList (marksChars parts.marks)).toList = _
  rw [String.toList_ofList, scanMarks_marksChars]

theorem pairs_element (parts : LineParts) (number : Nat) :
    (parts.element number).pairs = (parts.brackets.map BracketPart.content).filterMap pair? := by
  show (scanBrackets (String.ofList (bracketsChars parts.brackets)).toList).filterMap pair? = _
  rw [String.toList_ofList, scanBrackets_bracketsChars]

/-- What is in brackets is in the line. -/
theorem mem_chars_of_bracket {parts : LineParts} {token : BracketPart}
    (htoken : token ∈ parts.brackets) {c : Char} (hc : c ∈ token.content) : c ∈ parts.chars := by
  have hmem : c ∈ bracketsChars parts.brackets :=
    List.mem_flatMap.mpr ⟨token, htoken, by simp [hc]⟩
  simp [chars, fromWord, fromMarks, fromBrackets, hmem]

theorem mem_chars_of_text {parts : LineParts} {text : TextPart} (htext : parts.text = some text)
    {c : Char} (hc : c ∈ text.content) : c ∈ parts.chars := by
  simp [chars, fromWord, fromMarks, fromBrackets, fromText, htext, textChars, hc]

theorem mem_chars_of_style {parts : LineParts} {style : StylePart}
    (hstyle : parts.style = some style) {c : Char} (hc : c ∈ style.body) : c ∈ parts.chars := by
  simp [chars, fromWord, fromMarks, fromBrackets, fromText, fromStyle, hstyle, styleChars, hc]

end LineParts

/-- A pair in brackets is an attribute that can be expressed. -/
theorem isAttribute_of_pair? {content : List Char} {entry : String × String}
    (hbracket : ']' ∉ content) (hfree : FreeOf ['\n', '\t'] content)
    (h : pair? content = some entry) : IsAttribute entry := by
  obtain ⟨name, value⟩ := entry
  obtain ⟨rfl, hequals, hname, hvalue⟩ := (pair?_eq_some_iff content name value).mp h
  have hall : FreeOf [']', '\n', '\t'] (name.toList ++ '=' :: value.toList) :=
    hfree.and_not_mem hbracket
  have hnameFree : FreeOf ['=', ']', '\n', '\t'] name.toList :=
    (hall.subset fun c hc => List.mem_append_left _ hc).and_not_mem hequals
  refine ⟨hname, hnameFree.mono (by decide), hvalue, ?_⟩
  exact hall.subset fun c hc => List.mem_append_right _ (List.mem_cons_of_mem '=' hc)

/-- The attributes of a line are those of its word, then the marks, then the pairs. -/
theorem LineParts.attributes_element (parts : LineParts) (number : Nat) :
    ∃ fromWord : Attributes, fromWord.Expressible
      ∧ (parts.element number).attributes
        = ((parts.marks.map MarkPart.mark).foldl ElementLine.addMark fromWord).setAll
          ((parts.brackets.map BracketPart.content).filterMap pair?) := by
  unfold ElementLine.attributes
  rw [parts.tokens_element, parts.pairs_element]
  cases hword : parts.word with
  | none =>
    have hnone : (parts.element number).word = none := by
      simp [element, hword]
    rw [hnone]
    exact ⟨∅, Attributes.expressible_empty, rfl⟩
  | some word =>
    have hsome : (parts.element number).word = some (.ofList word.name) := by
      simp [element, hword]
    rw [hsome]
    exact ⟨_, Attributes.expressible_empty.addClass word.name_ok, rfl⟩

theorem LineParts.expressible_attributes (parts : LineParts) (number : Nat)
    (hfree : FreeOf ['\n', '\t'] parts.chars) :
    Attributes.Expressible (parts.element number).attributes := by
  obtain ⟨fromWord, hword, hattributes⟩ := parts.attributes_element number
  rw [hattributes]
  -- an attribute is from a pair, or from the word and the marks
  intro entry hentry
  rcases OrderedMap.mem_entries_setAll hentry with hentry | hentry
  · obtain ⟨content, hcontent, hpair⟩ := List.mem_filterMap.mp hentry
    obtain ⟨token, htoken, rfl⟩ := List.mem_map.mp hcontent
    exact isAttribute_of_pair? token.content_ok
      (hfree.subset fun c hc => LineParts.mem_chars_of_bracket htoken hc) hpair
  · exact hword.addMarks parts.marks entry hentry

/-- **WHAT IS READ CAN BE EXPRESSED.** -/
theorem LineParts.expressible_node (parts : LineParts) (number : Nat)
    (hfree : FreeOf ['\n', '\t'] parts.chars) : (parts.element number).node.IsExpressible where
  tag := by
    show IsTagName (String.ofList parts.tag).toList
    rw [String.toList_ofList]
    exact parts.tag_ok
  attrs := parts.expressible_attributes number hfree
  text := by
    intro text htext
    obtain ⟨part, hpart, rfl⟩ := Option.map_eq_some_iff.mp htext
    rw [String.toList_ofList]
    exact (hfree.subset fun c hc => LineParts.mem_chars_of_text hpart hc).and_not_mem
      part.content_ok
  styles := by
    intro styles hstyles entry hentry
    obtain ⟨body, hbody, rfl⟩ := Option.map_eq_some_iff.mp hstyles
    obtain ⟨part, hpart, rfl⟩ := Option.map_eq_some_iff.mp hbody
    obtain ⟨hform, hchars⟩ := Styles.mem_declarations (OrderedMap.mem_entries_ofPairs hentry)
    rw [String.toList_ofList] at hchars
    -- the block has no closing brace, and no piece of it a `;`
    have hside : ∀ cs : List Char, (∀ c ∈ cs, c ∈ part.body ∧ c ≠ ';') →
        FreeOf [';', '}', '\n', '\t'] cs := by
      intro cs hcs
      have hpartFree : FreeOf ['}', '\n', '\t'] cs :=
        ((hfree.subset fun c hc => LineParts.mem_chars_of_style hpart hc).and_not_mem
          part.body_ok).subset fun c hc => (hcs c hc).1
      exact hpartFree.and_not_mem fun hmem => (hcs ';' hmem).2 rfl
    exact ⟨hform, hside _ fun c hc => hchars c (Or.inl hc),
      hside _ fun c hc => hchars c (Or.inr hc)⟩

end MarkupShorthand
