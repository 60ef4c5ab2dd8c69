/-
  MarkupShorthand.Proofs.Line.Reading
  ───────────────────────────────────
  **A LINE IS READ EXACTLY WHEN THE GRAMMAR HAS IT, AND ITS PARTS ARE THE ONLY
  ONES IT HAS.**

  The cuts of a line, one after the other, against the grammar:

      parts  →  line  →  parts     `LineParts.chars_injective`
      parts  →  line  →  shape     `ofChars?_chars`
      line   →  shape →  parts     `exists_parts`

  From these the whole behaviour of `ElementLine.read` follows: which lines are
  refused for their shape, which for their indent, and what is read from the
  others.
-/
import MarkupShorthand.Line.ElementLine
import MarkupShorthand.Proofs.Line.Cuts

namespace MarkupShorthand

open Text

/-! ## §1. What is written determines the part. -/

theorem wordChars_inj {word word' : Option WordPart} (h : wordChars word = wordChars word') :
    word = word' := by
  have hne : ∀ w : WordPart, wordChars (some w) ≠ [] := by
    intro w hw
    exact w.gap_ne (List.append_eq_nil_iff.mp hw).1
  cases word with
  | none =>
    cases word' with
    | none => rfl
    | some word' => exact absurd h.symm (hne word')
  | some word =>
    cases word' with
    | none => exact absurd h (hne word)
    | some word' =>
      have hstop : Stops isBlank word.name := by
        have := word.name_ok.stops_isBlank []
        rwa [List.append_nil] at this
      have hstop' : Stops isBlank word'.name := by
        have := word'.name_ok.stops_isBlank []
        rwa [List.append_nil] at this
      obtain ⟨hgap, hname⟩ := run_unique word.gap_blank word'.gap_blank hstop hstop' h
      rw [WordPart.ext hgap hname]

theorem marksChars_inj :
    ∀ {marks marks' : List MarkPart}, marksChars marks = marksChars marks' → marks = marks'
  | [], [], _ => rfl
  | [], mark :: marks, h => by
    rw [Shape.marksChars_cons] at h
    cases h
  | mark :: marks, [], h => by
    rw [Shape.marksChars_cons] at h
    cases h
  | mark :: marks, mark' :: marks', h => by
    -- a name ends where the next mark begins, or with the run
    have hstop : ∀ more : List MarkPart, Stops isNameChar (marksChars more) := by
      intro more
      have := Shape.stops_marksChars more (stops_nil isNameChar)
      rwa [List.append_nil] at this
    rw [Shape.marksChars_cons, Shape.marksChars_cons] at h
    obtain ⟨hsigil, hrest⟩ := List.cons.inj h
    obtain ⟨hname, hmore⟩ := run_unique mark.name_ok.2 mark'.name_ok.2
      (hstop marks) (hstop marks') hrest
    rw [MarkPart.ext hsigil hname, marksChars_inj hmore]

theorem bracketsChars_inj :
    ∀ {brackets brackets' : List BracketPart},
      bracketsChars brackets = bracketsChars brackets' → brackets = brackets'
  | [], [], _ => rfl
  | [], token :: brackets, h => by
    rw [Shape.bracketsChars_cons] at h
    simp [bracketsChars] at h
  | token :: brackets, [], h => by
    rw [Shape.bracketsChars_cons] at h
    simp [bracketsChars] at h
  | token :: brackets, token' :: brackets', h => by
    rw [Shape.bracketsChars_cons, Shape.bracketsChars_cons] at h
    obtain ⟨hgap, hopen⟩ := run_unique token.gap_blank token'.gap_blank
      (stops_cons (by decide)) (stops_cons (by decide)) h
    obtain ⟨hcontent, hmore⟩ := cut_unique token.content_ok token'.content_ok
      (List.cons.inj hopen).2
    rw [BracketPart.ext hgap hcontent, bracketsChars_inj hmore]

theorem textChars_inj {text text' : Option TextPart} (h : textChars text = textChars text') :
    text = text' := by
  cases text with
  | none =>
    cases text' with
    | none => rfl
    | some text' => simp [textChars] at h
  | some text =>
    cases text' with
    | none => simp [textChars] at h
    | some text' =>
      obtain ⟨hgap, hequals⟩ := run_unique text.gap_blank text'.gap_blank
        (stops_cons (by decide)) (stops_cons (by decide)) h
      obtain ⟨hinner, hquote⟩ := run_unique text.inner_blank text'.inner_blank
        (stops_cons (by decide)) (stops_cons (by decide)) (List.cons.inj hequals).2
      have hcontent := List.append_cancel_right (List.cons.inj hquote).2
      rw [TextPart.ext hgap hinner hcontent]

theorem styleChars_inj {style style' : Option StylePart}
    (h : styleChars style = styleChars style') : style = style' := by
  cases style with
  | none =>
    cases style' with
    | none => rfl
    | some style' => simp [styleChars] at h
  | some style =>
    cases style' with
    | none => simp [styleChars] at h
    | some style' =>
      obtain ⟨hgap, hcolon⟩ := run_unique style.gap_blank style'.gap_blank
        (stops_cons (by decide)) (stops_cons (by decide)) h
      have hbody := List.append_cancel_right (List.cons.inj (List.cons.inj hcolon).2).2
      rw [StylePart.ext hgap hbody]

/-! ## §2. The grammar is unambiguous. -/

/-- A cut that leaves the rest of two equal texts has taken the same part of both. -/
theorem part_unique {α : Type} {cut : List Char → α × List Char}
    {part part' rest rest' : List Char} {taken taken' : α}
    (hcut : cut (part ++ rest) = (taken, rest)) (hcut' : cut (part' ++ rest') = (taken', rest'))
    (h : part ++ rest = part' ++ rest') : part = part' ∧ rest = rest' := by
  rw [h, hcut'] at hcut
  have hrest : rest = rest' := (Prod.mk.inj hcut).2.symm
  refine ⟨?_, hrest⟩
  rw [hrest] at h
  exact List.append_cancel_right h

/-- **THE GRAMMAR IS UNAMBIGUOUS**: a line has its parts in one way only. -/
theorem LineParts.chars_injective {parts parts' : LineParts} (h : parts.chars = parts'.chars) :
    parts = parts' := by
  -- the indent ends at the bracket, the tag at the other one
  obtain ⟨hindent, hopen⟩ := run_unique parts.indent_blank parts'.indent_blank
    (stops_cons (by decide)) (stops_cons (by decide)) h
  obtain ⟨htag, hclose⟩ := run_unique parts.tag_ok.isName.2 parts'.tag_ok.isName.2
    (stops_cons (by decide)) (stops_cons (by decide)) (List.cons.inj hopen).2
  -- from here on each cut of the reader separates one part from the rest
  obtain ⟨hword, hmarksOn⟩ := part_unique
    (Shape.cutWord_append parts.word (leads_fromMarks parts) (by decide))
    (Shape.cutWord_append parts'.word (leads_fromMarks parts') (by decide))
    (List.cons.inj hclose).2
  obtain ⟨hmarks, hbracketsOn⟩ := part_unique
    (Shape.cutMarks_append parts.marks (stops_isNameChar_fromBrackets parts)
      (stops_isSigil_fromBrackets parts))
    (Shape.cutMarks_append parts'.marks (stops_isNameChar_fromBrackets parts')
      (stops_isSigil_fromBrackets parts')) hmarksOn
  obtain ⟨hbrackets, htextOn⟩ := part_unique
    (Shape.cutBrackets_append parts.brackets (leads_fromText parts) (by decide))
    (Shape.cutBrackets_append parts'.brackets (leads_fromText parts') (by decide)) hbracketsOn
  obtain ⟨htext, hstyleOn⟩ := part_unique
    (Shape.cutText_append parts.text (leads_fromStyle parts) (by decide))
    (Shape.cutText_append parts'.text (leads_fromStyle parts') (by decide)) htextOn
  obtain ⟨hstyle, htrail⟩ := part_unique
    (Shape.cutStyle_append parts.style (leads_of_gap parts.trail_blank) (by simp))
    (Shape.cutStyle_append parts'.style (leads_of_gap parts'.trail_blank) (by simp)) hstyleOn
  exact LineParts.ext hindent htag (wordChars_inj hword) (marksChars_inj hmarks)
    (bracketsChars_inj hbrackets) (textChars_inj htext) (styleChars_inj hstyle) htrail

/-! ## §3. The shape of a line is the shape of its parts. -/

/-- The parts as the reader keeps them. -/
def LineParts.shape (parts : LineParts) : Shape where
  indent := parts.indent
  tag := parts.tag
  word := parts.word.map WordPart.name
  marks := marksChars parts.marks
  brackets := bracketsChars parts.brackets
  text := parts.text.map TextPart.content
  style := parts.style.map StylePart.body

/-- **A LINE OF THE GRAMMAR IS READ, PART BY PART.** -/
theorem ofChars?_chars (parts : LineParts) : Shape.ofChars? parts.chars = some parts.shape := by
  have hstop : Stops isBlank ('<' :: (parts.tag ++ '>' :: parts.fromWord)) :=
    stops_cons (by decide)
  have htrim : trimStart parts.chars = '<' :: (parts.tag ++ '>' :: parts.fromWord) :=
    dropWhile_append_stops parts.indent_blank hstop
  have hindent : parts.chars.takeWhile isBlank = parts.indent :=
    takeWhile_append_stops parts.indent_blank hstop
  -- what stands behind each part does not continue it, so each cut takes its part
  have hword : Shape.cutWord parts.fromWord = _ :=
    Shape.cutWord_append parts.word (leads_fromMarks parts) (by decide)
  have hmarks : Shape.cutMarks parts.fromMarks = _ :=
    Shape.cutMarks_append parts.marks (stops_isNameChar_fromBrackets parts)
      (stops_isSigil_fromBrackets parts)
  have hbrackets : Shape.cutBrackets parts.fromBrackets = _ :=
    Shape.cutBrackets_append parts.brackets (leads_fromText parts) (by decide)
  have htext : Shape.cutText parts.fromText = _ :=
    Shape.cutText_append parts.text (leads_fromStyle parts) (by decide)
  have hstyle : Shape.cutStyle parts.fromStyle = _ :=
    Shape.cutStyle_append parts.style (leads_of_gap parts.trail_blank) (by simp)
  have htrail : parts.trail.all isBlank = true := List.all_eq_true.mpr parts.trail_blank
  simp only [Shape.ofChars?, htrim, Shape.cutTag_append parts.tag_ok, hword, hmarks, hbrackets,
    htext, hstyle, htrail, hindent, if_true]
  rfl

/-- **WHAT IS READ IS A LINE OF THE GRAMMAR.** -/
theorem exists_parts {line : List Char} {shape : Shape}
    (h : Shape.ofChars? line = some shape) :
    ∃ parts : LineParts, parts.chars = line ∧ parts.shape = shape := by
  unfold Shape.ofChars? at h
  split at h
  · cases h
  · next tag afterTag htag =>
    obtain ⟨htagOk, hline⟩ := Shape.eq_of_cutTag htag
    -- the cuts of the reader, in their order
    rcases hcutWord : Shape.cutWord afterTag with ⟨takenWord, afterWord⟩
    rcases hcutMarks : Shape.cutMarks afterWord with ⟨takenMarks, afterMarks⟩
    rcases hcutBrackets : Shape.cutBrackets afterMarks with ⟨takenBrackets, afterBrackets⟩
    rcases hcutText : Shape.cutText afterBrackets with ⟨takenText, afterText⟩
    rcases hcutStyle : Shape.cutStyle afterText with ⟨takenStyle, afterStyle⟩
    -- each of them took a part of the grammar
    obtain ⟨word, hword, hfromWord⟩ := Shape.exists_wordPart afterTag
    obtain ⟨marks, hmarks, hfromMarks⟩ := Shape.exists_markParts afterWord
    obtain ⟨brackets, hbrackets, hfromBrackets⟩ := Shape.exists_bracketParts afterMarks
    obtain ⟨text, htext, hfromText⟩ := Shape.exists_textPart afterBrackets
    obtain ⟨style, hstyle, hfromStyle⟩ := Shape.exists_stylePart afterText
    rw [hcutWord] at hword hfromWord
    rw [hcutMarks] at hmarks hfromMarks
    rw [hcutBrackets] at hbrackets hfromBrackets
    rw [hcutText] at htext hfromText
    rw [hcutStyle] at hstyle hfromStyle
    simp only [hcutWord, hcutMarks, hcutBrackets, hcutText, hcutStyle] at h
    split at h
    · next htrail =>
      let parts : LineParts := ⟨line.takeWhile isBlank, tag, word, marks, brackets, text, style,
        afterStyle, isGap_takeWhile line, htagOk, isGap_of_all htrail⟩
      refine ⟨parts, ?_, ?_⟩
      · -- put together again, the parts are the line
        show line.takeWhile isBlank ++ '<' :: (tag ++ '>' :: (wordChars word
          ++ (marksChars marks ++ (bracketsChars brackets ++ (textChars text
          ++ (styleChars style ++ afterStyle)))))) = line
        rw [← hfromStyle, ← hfromText, ← hfromBrackets, ← hfromMarks, ← hfromWord, ← hline,
          takeWhile_append_trimStart]
      · -- and what the reader keeps of the line is what it keeps of the parts
        rw [← Option.some.inj h]
        show Shape.mk _ _ (word.map WordPart.name) (marksChars marks) (bracketsChars brackets)
          (text.map TextPart.content) (style.map StylePart.body) = _
        rw [← hword, ← hmarks, ← hbrackets, ← htext, ← hstyle]
    · cases h

/-! ## §4. Reading a line. -/

namespace LineParts

/-- The indent is an even run of spaces. -/
def EvenlyIndented (parts : LineParts) : Prop :=
  ∃ levels, parts.indent = List.replicate (2 * levels) ' '

/-- What is read from a line with these parts. -/
def element (parts : LineParts) (number : Nat) : ElementLine where
  number := number
  indent := parts.indent.length
  tag := .ofList parts.tag
  word := parts.word.map fun word => .ofList word.name
  marks := .ofList (marksChars parts.marks)
  brackets := .ofList (bracketsChars parts.brackets)
  text := parts.text.map fun text => .ofList text.content
  style := parts.style.map fun style => .ofList style.body

end LineParts

theorem isIndent_iff (cs : List Char) :
    ElementLine.isIndent cs = true ↔ ∃ levels, cs = List.replicate (2 * levels) ' ' := by
  simp only [ElementLine.isIndent, indentWidth, Bool.and_eq_true, List.all_eq_true, beq_iff_eq]
  constructor
  · rintro ⟨hall, heven⟩
    refine ⟨cs.length / 2, ?_⟩
    rw [Nat.mul_div_cancel' (Nat.dvd_of_mod_eq_zero heven)]
    exact List.eq_replicate_of_mem hall
  · rintro ⟨levels, rfl⟩
    refine ⟨fun c hc => List.eq_of_mem_replicate hc, ?_⟩
    rw [List.length_replicate]
    omega

/-- The parts of a line are read, or the line is refused for its indent. -/
theorem read_of_chars {parts : LineParts} {line : String} (h : parts.chars = line.toList)
    (number : Nat) :
    ElementLine.read ⟨number, line⟩ =
      if ElementLine.isIndent parts.indent then .ok (parts.element number)
      else .error ⟨.indent, number, line⟩ := by
  have hshape : Shape.ofChars? line.toList = some parts.shape := by
    rw [← h]
    exact ofChars?_chars parts
  have helement : ElementLine.ofShape number parts.shape = parts.element number := by
    simp [ElementLine.ofShape, LineParts.shape, LineParts.element, Function.comp_def]
  simp only [ElementLine.read, hshape]
  rw [helement]
  rfl

/-- A line with an even indent is read as its parts say. -/
theorem read_of_even {parts : LineParts} {line : String} (h : parts.chars = line.toList)
    (heven : parts.EvenlyIndented) (number : Nat) :
    ElementLine.read ⟨number, line⟩ = .ok (parts.element number) := by
  rw [read_of_chars h, if_pos ((isIndent_iff parts.indent).mpr heven)]

/-- A line with any other indent is refused for it. -/
theorem read_of_not_even {parts : LineParts} {line : String} (h : parts.chars = line.toList)
    (hodd : ¬ parts.EvenlyIndented) (number : Nat) :
    ElementLine.read ⟨number, line⟩ = .error ⟨.indent, number, line⟩ := by
  rw [read_of_chars h, if_neg fun hindent => hodd ((isIndent_iff parts.indent).mp hindent)]

/-- A line without parts is refused for its shape. -/
theorem read_of_no_parts {line : String} (h : ¬ ∃ parts : LineParts, parts.chars = line.toList)
    (number : Nat) : ElementLine.read ⟨number, line⟩ = .error ⟨.shape, number, line⟩ := by
  cases hshape : Shape.ofChars? line.toList with
  | none => simp only [ElementLine.read, hshape]
  | some shape =>
    obtain ⟨parts, hparts, -⟩ := exists_parts hshape
    exact absurd ⟨parts, hparts⟩ h

/-- **WHAT IS READ** from a line are its parts, and the indent is even. -/
theorem parts_of_read {number : Nat} {line : String} {element : ElementLine}
    (h : ElementLine.read ⟨number, line⟩ = .ok element) :
    ∃ parts : LineParts, parts.chars = line.toList ∧ parts.EvenlyIndented
      ∧ element = parts.element number := by
  by_cases hex : ∃ parts : LineParts, parts.chars = line.toList
  · obtain ⟨parts, hparts⟩ := hex
    by_cases heven : parts.EvenlyIndented
    · rw [read_of_even hparts heven] at h
      exact ⟨parts, hparts, heven, (Except.ok.inj h).symm⟩
    · rw [read_of_not_even hparts heven] at h
      cases h
  · rw [read_of_no_parts hex] at h
    cases h

/-- **A LINE IS READ EXACTLY WHEN THE GRAMMAR HAS IT.**  A text has its parts in
at most one way.  It is refused for its shape if it has none, for its indent if
it has parts of which the indent is not an even run of spaces, and is read as
its parts say otherwise. -/
theorem read_iff_parts (number : Nat) (line : String) :
    (∀ parts parts' : LineParts,
        parts.chars = line.toList → parts'.chars = line.toList → parts = parts')
    ∧ (ElementLine.read ⟨number, line⟩ = .error ⟨.shape, number, line⟩
        ↔ ¬ ∃ parts : LineParts, parts.chars = line.toList)
    ∧ (ElementLine.read ⟨number, line⟩ = .error ⟨.indent, number, line⟩
        ↔ ∃ parts : LineParts, parts.chars = line.toList ∧ ¬ parts.EvenlyIndented)
    ∧ ∀ element, ElementLine.read ⟨number, line⟩ = .ok element
        ↔ ∃ parts : LineParts, parts.chars = line.toList ∧ parts.EvenlyIndented
            ∧ element = parts.element number := by
  refine ⟨fun parts parts' h h' => LineParts.chars_injective (h.trans h'.symm),
    ⟨?_, fun h => read_of_no_parts h number⟩, ⟨?_, ?_⟩, fun element => ⟨parts_of_read, ?_⟩⟩
  · -- a line with parts is read, or refused for its indent
    rintro hread ⟨parts, hparts⟩
    rw [read_of_chars hparts] at hread
    split at hread <;> cases hread
  · -- a line that is refused for its indent has parts, and not with an even one
    intro hread
    by_cases hex : ∃ parts : LineParts, parts.chars = line.toList
    · obtain ⟨parts, hparts⟩ := hex
      refine ⟨parts, hparts, ?_⟩
      intro heven
      rw [read_of_even hparts heven] at hread
      cases hread
    · rw [read_of_no_parts hex] at hread
      cases hread
  · rintro ⟨parts, hparts, hodd⟩
    exact read_of_not_even hparts hodd number
  · rintro ⟨parts, hparts, heven, rfl⟩
    exact read_of_even hparts heven number

end MarkupShorthand
