/-
  MarkupShorthand.Proofs.Line.Cuts
  ────────────────────────────────
  **EACH CUT TAKES EXACTLY ITS PART.**

  Two facts for every cut of a line:

      …_append    in front of a rest that does not continue it, the part is
                  taken, and the rest is left
      exists_…    whatever the text, what is taken is a part of the grammar,
                  and nothing is lost

  The first is why the greedy cuts never have to be taken back; the second is
  why nothing is accepted that the grammar does not have.
-/
import MarkupShorthand.Proofs.Line.Grammar

namespace MarkupShorthand

open Text

namespace Shape

/-! ## §1. The tag. -/

theorem cutTag_append {tag : List Char} (h : IsTagName tag) (rest : List Char) :
    cutTag ('<' :: (tag ++ '>' :: rest)) = some (tag, rest) := by
  cases tag with
  | nil => exact h.elim
  | cons initial more =>
    have hstop : Stops isNameChar ('>' :: rest) := stops_cons (by decide)
    show cutTag ('<' :: initial :: (more ++ '>' :: rest)) = _
    simp only [cutTag, h.1, if_true, dropWhile_append_stops h.2 hstop,
      takeWhile_append_stops h.2 hstop]

theorem eq_of_cutTag {cs tag rest : List Char} (h : cutTag cs = some (tag, rest)) :
    IsTagName tag ∧ cs = '<' :: (tag ++ '>' :: rest) := by
  unfold cutTag at h
  split at h
  · next initial more =>
    split at h
    · next hinitial =>
      split at h
      · next after hafter =>
        simp only [Option.some.injEq, Prod.mk.injEq] at h
        obtain ⟨rfl, rfl⟩ := h
        have hall : ∀ c ∈ more.takeWhile isNameChar, isNameChar c = true :=
          fun c hc => List.mem_takeWhile_imp hc
        refine ⟨⟨hinitial, hall⟩, ?_⟩
        rw [← hafter, List.cons_append, List.takeWhile_append_dropWhile]
      · cases h
    · cases h
  · cases h

/-! ## §2. The word. -/

theorem cutWord_of_not_blank {c : Char} (hc : isBlank c = false) (cs : List Char) :
    cutWord (c :: cs) = (none, c :: cs) := by
  simp [cutWord, hc]

theorem cutWord_of_no_name {c : Char} {cs : List Char} (hc : isBlank c = true)
    (h : (trimStart cs).takeWhile isNameChar = []) :
    cutWord (c :: cs) = (none, c :: cs) := by
  simp [cutWord, hc, h]

theorem cutWord_of_name {c : Char} {cs name : List Char} (hc : isBlank c = true)
    (hne : name ≠ []) (h : (trimStart cs).takeWhile isNameChar = name) :
    cutWord (c :: cs) = (some name, (trimStart cs).dropWhile isNameChar) := by
  cases name with
  | nil => exact absurd rfl hne
  | cons d name => simp [cutWord, hc, h]

theorem cutWord_append (word : Option WordPart) {allowed rest : List Char}
    (hlead : Leads allowed rest) (hallowed : Misses isNameChar allowed) :
    cutWord (wordChars word ++ rest) = (word.map WordPart.name, rest) := by
  cases word with
  | none =>
    show cutWord rest = (none, rest)
    -- without a blank in front no word begins, and behind a blank no name does
    cases rest with
    | nil => rfl
    | cons c cs =>
      cases hc : isBlank c with
      | false => exact cutWord_of_not_blank hc cs
      | true =>
        have hnone := hlead.takeWhile_trimStart hallowed
        rw [trimStart_cons_of_blank hc] at hnone
        exact cutWord_of_no_name hc hnone
  | some word =>
    have hstop : Stops isNameChar rest :=
      hlead.stops (fun _ h => not_isNameChar_of_isBlank h) hallowed
    obtain ⟨gap, name, hne, hgap, hname⟩ := word
    cases gap with
    | nil => exact absurd rfl hne
    | cons c gap =>
      have hc : isBlank c = true := hgap c List.mem_cons_self
      have htrim : trimStart (gap ++ (name ++ rest)) = name ++ rest :=
        hname.trimStart_gap_append (fun d hd => hgap d (List.mem_cons_of_mem _ hd)) rest
      -- the cut skips all blanks, then takes the longest name, which is `name`
      show cutWord (c :: (gap ++ name) ++ rest) = (some name, rest)
      rw [List.cons_append, List.append_assoc, cutWord_of_name hc hname.1, htrim,
        dropWhile_append_stops hname.2 hstop]
      rw [htrim, takeWhile_append_stops hname.2 hstop]

theorem exists_wordPart (cs : List Char) :
    ∃ word : Option WordPart,
      (cutWord cs).1 = word.map WordPart.name ∧ cs = wordChars word ++ (cutWord cs).2 := by
  cases cs with
  | nil => exact ⟨none, rfl, rfl⟩
  | cons c cs =>
    cases hc : isBlank c with
    | false =>
      rw [cutWord_of_not_blank hc]
      exact ⟨none, rfl, rfl⟩
    | true =>
      -- blanks that no name follows are left where they are, for the next part
      by_cases hname : (trimStart cs).takeWhile isNameChar = []
      · rw [cutWord_of_no_name hc hname]
        exact ⟨none, rfl, rfl⟩
      · have hgap : IsGap (c :: cs.takeWhile isBlank) := by
          intro e he
          rcases List.mem_cons.mp he with rfl | he
          · exact hc
          · exact isGap_takeWhile cs e he
        have hok : IsName ((trimStart cs).takeWhile isNameChar) :=
          ⟨hname, fun e he => List.mem_takeWhile_imp he⟩
        rw [cutWord_of_name hc hname rfl]
        refine ⟨some ⟨c :: cs.takeWhile isBlank, _, List.cons_ne_nil _ _, hgap, hok⟩, rfl, ?_⟩
        show c :: cs = (c :: cs.takeWhile isBlank ++ (trimStart cs).takeWhile isNameChar)
          ++ (trimStart cs).dropWhile isNameChar
        rw [List.append_assoc, List.takeWhile_append_dropWhile, List.cons_append,
          takeWhile_append_trimStart]

/-! ## §3. The marks. -/

theorem marksChars_cons (mark : MarkPart) (marks : List MarkPart) :
    marksChars (mark :: marks) = mark.sigil :: (mark.name ++ marksChars marks) :=
  List.flatMap_cons

theorem stops_marksChars (marks : List MarkPart) {rest : List Char}
    (h : Stops isNameChar rest) : Stops isNameChar (marksChars marks ++ rest) := by
  cases marks with
  | nil => exact h
  | cons mark marks =>
    rw [marksChars_cons]
    exact stops_cons (not_isNameChar_of_isSigil mark.sigil_ok)

/-- Cuts off a mark and what stands behind it. -/
theorem cutMarks_cons (mark : MarkPart) {rest : List Char} (h : Stops isNameChar rest) :
    cutMarks (mark.sigil :: (mark.name ++ rest))
      = (mark.sigil :: mark.name ++ (cutMarks rest).1, (cutMarks rest).2) := by
  obtain ⟨sigil, name, hsigil, hname⟩ := mark
  rw [cutMarks]
  simp only [hsigil, if_true, takeWhile_append_stops hname.2 h,
    dropWhile_append_stops hname.2 h]
  cases name with
  | nil => exact absurd rfl hname.1
  | cons c name => rfl

theorem cutMarks_append (marks : List MarkPart) {rest : List Char}
    (hname : Stops isNameChar rest) (hsigil : Stops isSigil rest) :
    cutMarks (marksChars marks ++ rest) = (marksChars marks, rest) := by
  induction marks with
  | nil =>
    -- behind the last mark no sigil goes on
    show cutMarks rest = ([], rest)
    cases rest with
    | nil => rw [cutMarks]
    | cons c cs =>
      rw [cutMarks]
      simp [hsigil c rfl]
  | cons mark marks ih =>
    rw [marksChars_cons, List.cons_append, List.append_assoc,
      cutMarks_cons mark (stops_marksChars marks hname), ih]
    rfl

theorem exists_markParts (cs : List Char) :
    ∃ marks : List MarkPart,
      (cutMarks cs).1 = marksChars marks ∧ cs = marksChars marks ++ (cutMarks cs).2 := by
  induction cs using cutMarks.induct with
  | case1 =>
    rw [cutMarks]
    exact ⟨[], rfl, rfl⟩
  | case2 c cs hc hnil =>
    -- a sigil without a name is no mark
    rw [cutMarks]
    simp only [hc, if_true, hnil]
    exact ⟨[], rfl, rfl⟩
  | case3 c cs hc hne ih =>
    -- a sigil with a name is a mark, and the induction is on what is behind it
    obtain ⟨marks, hmarks, hrest⟩ := ih
    have hname : IsName (cs.takeWhile isNameChar) :=
      ⟨hne, fun d hd => List.mem_takeWhile_imp hd⟩
    let mark : MarkPart := ⟨c, cs.takeWhile isNameChar, hc, hname⟩
    have hcs : c :: cs = mark.sigil :: (mark.name ++ cs.dropWhile isNameChar) := by
      show c :: cs = c :: (cs.takeWhile isNameChar ++ cs.dropWhile isNameChar)
      rw [List.takeWhile_append_dropWhile]
    rw [hcs, cutMarks_cons mark (stops_dropWhile isNameChar cs), hmarks]
    refine ⟨mark :: marks, ?_, ?_⟩
    · rw [marksChars_cons, List.cons_append]
    · rw [marksChars_cons, List.cons_append, List.append_assoc, ← hrest]
  | case4 c cs hc =>
    rw [cutMarks]
    simp only [hc]
    exact ⟨[], rfl, rfl⟩

/-! ## §4. The brackets. -/

theorem bracketsChars_cons (token : BracketPart) (brackets : List BracketPart) :
    bracketsChars (token :: brackets)
      = token.gap ++ '[' :: (token.content ++ ']' :: bracketsChars brackets) := by
  simp [bracketsChars]

theorem cutBracket_append (token : BracketPart) (rest : List Char) :
    cutBracket (token.gap ++ '[' :: (token.content ++ ']' :: rest))
      = some (token.gap ++ '[' :: (token.content ++ [']']), rest) := by
  obtain ⟨gap, content, hgap, hne, hcontent⟩ := token
  have hopen : Stops isBlank ('[' :: (content ++ ']' :: rest)) := stops_cons (by decide)
  have htaken := takeWhile_cut hcontent rest
  have hleft := dropWhile_cut hcontent rest
  have htrim : trimStart (gap ++ '[' :: (content ++ ']' :: rest))
      = '[' :: (content ++ ']' :: rest) := dropWhile_append_stops hgap hopen
  cases content with
  | nil => exact absurd rfl hne
  | cons c content =>
    simp only [cutBracket, htrim, htaken, hleft, takeWhile_append_stops hgap hopen]
    simp

theorem cutBracket_eq_none {allowed rest : List Char} (hlead : Leads allowed rest)
    (hallowed : '[' ∉ allowed) : cutBracket rest = none := by
  unfold cutBracket
  split
  · next inner hinner => exact absurd (hlead.mem hinner) hallowed
  · rfl

theorem exists_bracketPart {cs bracket after : List Char}
    (h : cutBracket cs = some (bracket, after)) :
    ∃ token : BracketPart, bracket = token.gap ++ '[' :: (token.content ++ [']'])
      ∧ cs = token.gap ++ '[' :: (token.content ++ ']' :: after) := by
  unfold cutBracket at h
  split at h
  · next inner hinner =>
    split at h
    · cases h
    · cases h
    · next close more hdrop hne =>
      simp only [Option.some.injEq, Prod.mk.injEq] at h
      obtain ⟨rfl, rfl⟩ := h
      -- what ended the content can only have been the bracket
      have hclose : close = ']' := dropWhile_bne_eq_cons hdrop
      subst hclose
      let token : BracketPart := ⟨cs.takeWhile isBlank, inner.takeWhile (· != ']'),
        isGap_takeWhile cs, hne, not_mem_takeWhile_bne ']' inner⟩
      refine ⟨token, by simp [token], ?_⟩
      show cs = cs.takeWhile isBlank ++ '[' :: (inner.takeWhile (· != ']') ++ ']' :: more)
      rw [← hdrop, List.takeWhile_append_dropWhile, ← hinner, takeWhile_append_trimStart]
  · cases h

theorem cutBrackets_of_none {cs : List Char} (h : cutBracket cs = none) :
    cutBrackets cs = ([], cs) := by
  rw [cutBrackets]
  split
  · rfl
  · next hsome => rw [h] at hsome; cases hsome

theorem cutBrackets_of_some {cs bracket after : List Char}
    (h : cutBracket cs = some (bracket, after)) :
    cutBrackets cs = (bracket ++ (cutBrackets after).1, (cutBrackets after).2) := by
  rw [cutBrackets]
  split
  · next hnone => rw [h] at hnone; cases hnone
  · next bracket' after' hsome =>
    rw [h] at hsome
    simp only [Option.some.injEq, Prod.mk.injEq] at hsome
    obtain ⟨rfl, rfl⟩ := hsome
    rfl

theorem cutBrackets_append (brackets : List BracketPart) {allowed rest : List Char}
    (hlead : Leads allowed rest) (hallowed : '[' ∉ allowed) :
    cutBrackets (bracketsChars brackets ++ rest) = (bracketsChars brackets, rest) := by
  induction brackets with
  | nil => exact cutBrackets_of_none (cutBracket_eq_none hlead hallowed)
  | cons token brackets ih =>
    have hcut := cutBracket_append token (bracketsChars brackets ++ rest)
    rw [bracketsChars_cons]
    simp only [List.append_assoc, List.cons_append]
    rw [cutBrackets_of_some hcut, ih]
    simp

theorem exists_bracketParts (cs : List Char) :
    ∃ brackets : List BracketPart,
      (cutBrackets cs).1 = bracketsChars brackets
        ∧ cs = bracketsChars brackets ++ (cutBrackets cs).2 := by
  induction cs using cutBrackets.induct with
  | case1 cs hnone =>
    rw [cutBrackets_of_none hnone]
    exact ⟨[], rfl, rfl⟩
  | case2 cs bracket after hsome ih =>
    -- one token was taken, and the induction is on what is behind it
    obtain ⟨brackets, hbrackets, hrest⟩ := ih
    obtain ⟨token, htoken, hcs⟩ := exists_bracketPart hsome
    rw [cutBrackets_of_some hsome, hbrackets]
    refine ⟨token :: brackets, ?_, ?_⟩
    · rw [bracketsChars_cons, htoken]
      simp
    · rw [bracketsChars_cons]
      simp only [List.append_assoc, List.cons_append]
      rw [← hrest]
      exact hcs

/-! ## §5. The text. -/

theorem cutText_eq_none {allowed rest : List Char} (hlead : Leads allowed rest)
    (hallowed : '=' ∉ allowed) : cutText rest = (none, rest) := by
  unfold cutText
  split
  · next behind hbehind => exact absurd (hlead.mem hbehind) hallowed
  · rfl

theorem cutText_append (text : Option TextPart) {allowed rest : List Char}
    (hlead : Leads allowed rest) (hallowed : '=' ∉ allowed) :
    cutText (textChars text ++ rest) = (text.map TextPart.content, rest) := by
  cases text with
  | none => exact cutText_eq_none hlead hallowed
  | some text =>
    obtain ⟨gap, inner, content, hgap, hinner, hcontent⟩ := text
    have hequals : trimStart (gap ++ '=' :: (inner ++ '"' :: (content ++ '"' :: rest)))
        = '=' :: (inner ++ '"' :: (content ++ '"' :: rest)) :=
      dropWhile_append_stops hgap (stops_cons (by decide))
    have hquote : trimStart (inner ++ '"' :: (content ++ '"' :: rest))
        = '"' :: (content ++ '"' :: rest) :=
      dropWhile_append_stops hinner (stops_cons (by decide))
    show cutText ((gap ++ '=' :: (inner ++ '"' :: (content ++ ['"']))) ++ rest)
      = (some content, rest)
    simp only [List.append_assoc, List.cons_append, List.nil_append, cutText, hequals, hquote,
      dropWhile_cut hcontent, takeWhile_cut hcontent]

theorem exists_textPart (cs : List Char) :
    ∃ text : Option TextPart,
      (cutText cs).1 = text.map TextPart.content ∧ cs = textChars text ++ (cutText cs).2 := by
  unfold cutText
  split
  · next behind hbehind =>
    split
    · next inner hinner =>
      split
      · next close after hdrop =>
        have hclose : close = '"' := dropWhile_bne_eq_cons hdrop
        subst hclose
        refine ⟨some ⟨cs.takeWhile isBlank, behind.takeWhile isBlank,
          inner.takeWhile (· != '"'), isGap_takeWhile cs, isGap_takeWhile behind,
          not_mem_takeWhile_bne '"' inner⟩, rfl, ?_⟩
        -- blanks, the sign, blanks, the quoted text and the rest: nothing is lost
        show cs = (cs.takeWhile isBlank ++ '=' :: (behind.takeWhile isBlank
          ++ '"' :: (inner.takeWhile (· != '"') ++ ['"']))) ++ after
        simp only [List.append_assoc, List.cons_append, List.nil_append]
        rw [← hdrop, List.takeWhile_append_dropWhile, ← hinner, takeWhile_append_trimStart,
          ← hbehind, takeWhile_append_trimStart]
      · exact ⟨none, rfl, rfl⟩
    · exact ⟨none, rfl, rfl⟩
  · exact ⟨none, rfl, rfl⟩

/-! ## §6. The style block. -/

theorem cutStyle_eq_none {allowed rest : List Char} (hlead : Leads allowed rest)
    (hallowed : ':' ∉ allowed) : cutStyle rest = (none, rest) := by
  unfold cutStyle
  split
  · next inner hinner => exact absurd (hlead.mem hinner) hallowed
  · rfl

theorem cutStyle_append (style : Option StylePart) {allowed rest : List Char}
    (hlead : Leads allowed rest) (hallowed : ':' ∉ allowed) :
    cutStyle (styleChars style ++ rest) = (style.map StylePart.body, rest) := by
  cases style with
  | none => exact cutStyle_eq_none hlead hallowed
  | some style =>
    obtain ⟨gap, body, hgap, hne, hbody⟩ := style
    have htaken := takeWhile_cut hbody rest
    have hleft := dropWhile_cut hbody rest
    have hcolon : trimStart (gap ++ ':' :: '{' :: (body ++ '}' :: rest))
        = ':' :: '{' :: (body ++ '}' :: rest) :=
      dropWhile_append_stops hgap (stops_cons (by decide))
    show cutStyle ((gap ++ ':' :: '{' :: (body ++ ['}'])) ++ rest) = (some body, rest)
    cases body with
    | nil => exact absurd rfl hne
    | cons c body =>
      simp only [List.append_assoc, List.cons_append, List.nil_append] at hcolon htaken hleft ⊢
      simp only [cutStyle, hcolon, htaken, hleft]

theorem exists_stylePart (cs : List Char) :
    ∃ style : Option StylePart,
      (cutStyle cs).1 = style.map StylePart.body ∧ cs = styleChars style ++ (cutStyle cs).2 := by
  unfold cutStyle
  split
  · next inner hinner =>
    split
    · exact ⟨none, rfl, rfl⟩
    · exact ⟨none, rfl, rfl⟩
    · next close after hdrop hne =>
      have hclose : close = '}' := dropWhile_bne_eq_cons hdrop
      subst hclose
      refine ⟨some ⟨cs.takeWhile isBlank, inner.takeWhile (· != '}'), isGap_takeWhile cs, hne,
        not_mem_takeWhile_bne '}' inner⟩, rfl, ?_⟩
      -- blanks, the opening, the body and the rest: nothing is lost
      show cs = (cs.takeWhile isBlank ++ ':' :: '{' :: (inner.takeWhile (· != '}') ++ ['}']))
        ++ after
      simp only [List.append_assoc, List.cons_append, List.nil_append]
      rw [← hdrop, List.takeWhile_append_dropWhile, ← hinner, takeWhile_append_trimStart]
  · exact ⟨none, rfl, rfl⟩

end Shape

end MarkupShorthand
