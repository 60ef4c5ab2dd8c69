/-
  MarkupShorthand.Proofs.Line.Grammar
  ───────────────────────────────────
  **THE GRAMMAR OF AN ELEMENT LINE, PART BY PART, WITH EVERY BLANK IN IT.**

  A `LineParts` is one way to write a line:

      indent < tag > word marks brackets text style trail

      tag         a letter, then name characters
      word        blanks (at least one) and a name, or nothing
      marks       any number of `#name` and `.name`
      brackets    any number of blanks `[` content `]`
      text        blanks `=` blanks and a quoted text, or nothing
      style       blanks, a colon and a body in braces, or nothing
      indent, trail   blanks

  Each part carries the proof that it has the form that the grammar asks for,
  and `LineParts.chars` writes the line.  Nothing here mentions the reader.

  From the end of the line to its beginning, `leads_fromStyle` to
  `leads_fromMarks` say with which characters the rest of a line can go on:
  never with one that the part in front would have taken.
-/
import MarkupShorthand.Line.Shape
import MarkupShorthand.Proofs.Text.Run

namespace MarkupShorthand

open Text

/-! ## §1. Character classes. -/

theorem isUpper_iff (c : Char) : c.isUpper = true ↔ 65 ≤ c.toNat ∧ c.toNat ≤ 90 := by
  show decide ('A'.val ≤ c.val ∧ c.val ≤ 'Z'.val) = true ↔ _
  rw [decide_eq_true_eq, UInt32.le_iff_toNat_le, UInt32.le_iff_toNat_le]
  rfl

theorem isLower_iff (c : Char) : c.isLower = true ↔ 97 ≤ c.toNat ∧ c.toNat ≤ 122 := by
  show (decide ('a'.val ≤ c.val) && decide (c.val ≤ 'z'.val)) = true ↔ _
  rw [Bool.and_eq_true, decide_eq_true_eq, decide_eq_true_eq, UInt32.le_iff_toNat_le,
    UInt32.le_iff_toNat_le]
  rfl

/-- A name character is a letter, a digit, `_` or `-` of ASCII. -/
theorem isNameChar_iff (c : Char) :
    isNameChar c = true ↔
      (48 ≤ c.toNat ∧ c.toNat ≤ 57) ∨ (65 ≤ c.toNat ∧ c.toNat ≤ 90)
        ∨ (97 ≤ c.toNat ∧ c.toNat ≤ 122) ∨ c.toNat = 95 ∨ c.toNat = 45 := by
  have hdigit : c.isDigit = true ↔ 48 ≤ c.toNat ∧ c.toNat ≤ 57 := Char.isDigit_iff_toNat
  have hunder : c = '_' ↔ c.toNat = 95 := by
    rw [← Char.toNat_inj]
    rfl
  have hdash : c = '-' ↔ c.toNat = 45 := by
    rw [← Char.toNat_inj]
    rfl
  show ((((c.isUpper || c.isLower) || c.isDigit) || c == '_') || c == '-') = true ↔ _
  simp only [Bool.or_eq_true, beq_iff_eq, isUpper_iff, isLower_iff, hdigit, hunder, hdash]
  omega

theorem isNameChar_of_isAlpha {c : Char} (h : c.isAlpha = true) : isNameChar c = true := by
  simp [isNameChar, Char.isAlphanum, h]

theorem not_isNameChar_of_isBlank {c : Char} (h : isBlank c = true) : isNameChar c = false := by
  cases hc : isNameChar c with
  | false => rfl
  | true =>
    rw [isNameChar_iff] at hc
    simp only [isBlank, Bool.or_eq_true, Bool.and_eq_true, decide_eq_true_eq, beq_iff_eq] at h
    omega

theorem not_isBlank_of_isNameChar {c : Char} (h : isNameChar c = true) : isBlank c = false := by
  cases hc : isBlank c with
  | false => rfl
  | true => rw [not_isNameChar_of_isBlank hc] at h; cases h

theorem isSigil_iff (c : Char) : isSigil c = true ↔ c = '#' ∨ c = '.' := by
  simp [isSigil]

theorem not_isSigil_of_isBlank {c : Char} (h : isBlank c = true) : isSigil c = false := by
  cases hc : isSigil c with
  | false => rfl
  | true =>
    rw [isSigil_iff] at hc
    rcases hc with rfl | rfl <;> revert h <;> decide

theorem not_isBlank_of_isSigil {c : Char} (h : isSigil c = true) : isBlank c = false := by
  cases hc : isBlank c with
  | false => rfl
  | true => rw [not_isSigil_of_isBlank hc] at h; cases h

theorem not_isNameChar_of_isSigil {c : Char} (h : isSigil c = true) : isNameChar c = false := by
  rw [isSigil_iff] at h
  rcases h with rfl | rfl <;> decide

/-! ## §2. Names. -/

/-- One or more name characters. -/
def IsName (cs : List Char) : Prop :=
  cs ≠ [] ∧ ∀ c ∈ cs, isNameChar c = true

/-- A letter, then name characters. -/
def IsTagName : List Char → Prop
  | [] => False
  | initial :: rest => initial.isAlpha = true ∧ ∀ c ∈ rest, isNameChar c = true

instance : DecidablePred IsTagName
  | [] => isFalse id
  | initial :: rest =>
    decidable_of_iff (initial.isAlpha && rest.all isNameChar) (by simp [IsTagName])

theorem IsTagName.isName {cs : List Char} (h : IsTagName cs) : IsName cs := by
  cases cs with
  | nil => exact h.elim
  | cons initial rest =>
    refine ⟨List.cons_ne_nil _ _, ?_⟩
    intro c hc
    rcases List.mem_cons.mp hc with rfl | hc
    · exact isNameChar_of_isAlpha h.1
    · exact h.2 c hc

theorem IsName.stops_isBlank {name : List Char} (h : IsName name) (rest : List Char) :
    Stops isBlank (name ++ rest) := by
  obtain ⟨hne, hall⟩ := h
  cases name with
  | nil => exact absurd rfl hne
  | cons c cs => exact stops_cons (not_isBlank_of_isNameChar (hall c List.mem_cons_self))

/-- A name that stands behind blanks is what is left without them. -/
theorem IsName.trimStart_gap_append {gap name : List Char} (h : IsName name) (hgap : IsGap gap)
    (rest : List Char) : trimStart (gap ++ (name ++ rest)) = name ++ rest :=
  dropWhile_append_stops hgap (h.stops_isBlank rest)

/-! ## §3. The parts. -/

/-- The word behind the tag. -/
@[ext] structure WordPart where
  /-- The blanks in front. -/
  gap : List Char
  /-- The word. -/
  name : List Char
  gap_ne : gap ≠ []
  gap_blank : IsGap gap
  name_ok : IsName name

/-- A mark. -/
@[ext] structure MarkPart where
  /-- `#` or `.`. -/
  sigil : Char
  /-- The name behind it. -/
  name : List Char
  sigil_ok : isSigil sigil = true
  name_ok : IsName name

/-- A bracketed token. -/
@[ext] structure BracketPart where
  /-- The blanks in front. -/
  gap : List Char
  /-- What stands between the brackets. -/
  content : List Char
  gap_blank : IsGap gap
  content_ne : content ≠ []
  content_ok : ']' ∉ content

/-- A quoted text. -/
@[ext] structure TextPart where
  /-- The blanks in front of the `=`. -/
  gap : List Char
  /-- The blanks behind it. -/
  inner : List Char
  /-- What stands between the quotes. -/
  content : List Char
  gap_blank : IsGap gap
  inner_blank : IsGap inner
  content_ok : '"' ∉ content

/-- A style block. -/
@[ext] structure StylePart where
  /-- The blanks in front. -/
  gap : List Char
  /-- What stands between the braces. -/
  body : List Char
  gap_blank : IsGap gap
  body_ne : body ≠ []
  body_ok : '}' ∉ body

/-- An element line, part by part. -/
@[ext] structure LineParts where
  /-- The blanks in front. -/
  indent : List Char
  /-- The name between `<` and `>`. -/
  tag : List Char
  /-- The word behind the tag. -/
  word : Option WordPart
  /-- The marks from left to right. -/
  marks : List MarkPart
  /-- The bracketed tokens from left to right. -/
  brackets : List BracketPart
  /-- The quoted text. -/
  text : Option TextPart
  /-- The style block. -/
  style : Option StylePart
  /-- The blanks at the end. -/
  trail : List Char
  indent_blank : IsGap indent
  tag_ok : IsTagName tag
  trail_blank : IsGap trail

/-! ## §4. How a line is written. -/

/-- The word as it stands in the line. -/
def wordChars : Option WordPart → List Char
  | none => []
  | some word => word.gap ++ word.name

/-- The marks as they stand in the line. -/
def marksChars (marks : List MarkPart) : List Char :=
  marks.flatMap fun mark => mark.sigil :: mark.name

/-- The bracketed tokens as they stand in the line. -/
def bracketsChars (brackets : List BracketPart) : List Char :=
  brackets.flatMap fun token => token.gap ++ '[' :: (token.content ++ [']'])

/-- The quoted text as it stands in the line. -/
def textChars : Option TextPart → List Char
  | none => []
  | some text => text.gap ++ '=' :: (text.inner ++ '"' :: (text.content ++ ['"']))

/-- The style block as it stands in the line. -/
def styleChars : Option StylePart → List Char
  | none => []
  | some style => style.gap ++ ':' :: '{' :: (style.body ++ ['}'])

namespace LineParts

/-- What stands behind the quoted text. -/
def fromStyle (parts : LineParts) : List Char :=
  styleChars parts.style ++ parts.trail

/-- What stands behind the bracketed tokens. -/
def fromText (parts : LineParts) : List Char :=
  textChars parts.text ++ parts.fromStyle

/-- What stands behind the marks. -/
def fromBrackets (parts : LineParts) : List Char :=
  bracketsChars parts.brackets ++ parts.fromText

/-- What stands behind the word. -/
def fromMarks (parts : LineParts) : List Char :=
  marksChars parts.marks ++ parts.fromBrackets

/-- What stands behind the tag. -/
def fromWord (parts : LineParts) : List Char :=
  wordChars parts.word ++ parts.fromMarks

/-- The line that has these parts. -/
def chars (parts : LineParts) : List Char :=
  parts.indent ++ '<' :: (parts.tag ++ '>' :: parts.fromWord)

end LineParts

/-! ## §5. What follows a part.

No part is followed by a character that would have continued it.  From the back
to the front, one more character is allowed at each part. -/

theorem leads_fromStyle (parts : LineParts) : Leads [':'] parts.fromStyle := by
  unfold LineParts.fromStyle
  cases parts.style with
  | none => exact (leads_of_gap parts.trail_blank).mono (by simp)
  | some style =>
    show Leads _ ((style.gap ++ ':' :: '{' :: (style.body ++ ['}'])) ++ parts.trail)
    rw [List.append_assoc]
    exact leads_gap_cons style.gap_blank (by decide) (by simp) _

theorem leads_fromText (parts : LineParts) : Leads ['=', ':'] parts.fromText := by
  unfold LineParts.fromText
  cases parts.text with
  | none => exact (leads_fromStyle parts).mono (by simp)
  | some text =>
    show Leads _ ((text.gap ++ '=' :: (text.inner ++ '"' :: (text.content ++ ['"'])))
      ++ parts.fromStyle)
    rw [List.append_assoc]
    exact leads_gap_cons text.gap_blank (by decide) (by simp) _

theorem leads_fromBrackets (parts : LineParts) : Leads ['[', '=', ':'] parts.fromBrackets := by
  unfold LineParts.fromBrackets
  cases parts.brackets with
  | nil => exact (leads_fromText parts).mono (by simp)
  | cons token more =>
    show Leads _ ((token.gap ++ '[' :: (token.content ++ [']']) ++ bracketsChars more)
      ++ parts.fromText)
    rw [List.append_assoc, List.append_assoc]
    exact leads_gap_cons token.gap_blank (by decide) (by simp) _

theorem leads_fromMarks (parts : LineParts) :
    Leads ['#', '.', '[', '=', ':'] parts.fromMarks := by
  unfold LineParts.fromMarks
  cases parts.marks with
  | nil => exact (leads_fromBrackets parts).mono (by simp)
  | cons mark more =>
    -- a mark stands directly behind what is in front of it
    have hmem : mark.sigil ∈ ['#', '.', '[', '=', ':'] := by
      rcases (isSigil_iff _).mp mark.sigil_ok with h | h <;> simp [h]
    exact leads_gap_cons isGap_nil (not_isBlank_of_isSigil mark.sigil_ok) hmem _

theorem stops_isNameChar_fromBrackets (parts : LineParts) :
    Stops isNameChar parts.fromBrackets :=
  (leads_fromBrackets parts).stops (fun _ h => not_isNameChar_of_isBlank h) (by decide)

theorem stops_isSigil_fromBrackets (parts : LineParts) : Stops isSigil parts.fromBrackets :=
  (leads_fromBrackets parts).stops (fun _ h => not_isSigil_of_isBlank h) (by decide)

end MarkupShorthand
