/-
  MarkupShorthand.Proofs.Yaml.Scalar
  ──────────────────────────────────
  **A SCALAR SHOWS ITS TEXT AND WHERE IT ENDS, IF WHAT STANDS BEHIND IT IS
  INDENTED LESS.**

      indentLines_inj         indented lines fall into their characters in one way
      exists_scalar_eq_cons   the first character shows the style
      plain_inj, plain_key_inj, single_inj, double_inj, literal_inj
                              one style after the other
      delimitedBefore_scalar  a scalar with its last line ended, as values are
      scalar_key_inj          a scalar in front of a colon, as keys are

  Two texts in one style are compared character by character; a text is never
  compared with one in another style, as they begin differently.
-/
import MarkupShorthand.Proofs.Text.Run
import MarkupShorthand.Proofs.Yaml.Escape
import MarkupShorthand.Yaml.Forest

namespace MarkupShorthand.Yaml

open Text

/-! ## §1. Columns. -/

theorem spaces_add (column extra : Nat) :
    spaces (column + extra) = spaces column ++ spaces extra :=
  List.replicate_append_replicate.symm

theorem spaces_succ (column : Nat) : spaces (column + 1) = ' ' :: spaces column :=
  List.replicate_succ

theorem isBreak_space : isBreak ' ' = false := rfl

theorem isBreak_newline : isBreak '\n' = true := rfl

/-- A line that does not begin with a break does not do so behind spaces. -/
theorem spaces_ne_break (column : Nat) {c d : Char} (hc : isBreak c = false)
    (hd : isBreak d = true) (more rest : List Char) : ¬ spaces column ++ c :: more = d :: rest := by
  intro heq
  cases column with
  | zero =>
    rw [← (List.cons.inj heq).1, hc] at hd
    cases hd
  | succ column =>
    rw [spaces_succ] at heq
    rw [← (List.cons.inj heq).1, isBreak_space] at hd
    cases hd

/-- The text goes on, if at all, with a line that is indented less. -/
def Shallow (width : Nat) (rest : List Char) : Prop :=
  rest = [] ∨ ∃ column c more,
    column < width ∧ ¬ c = ' ' ∧ isBreak c = false ∧ rest = spaces column ++ c :: more

theorem shallow_nil (width : Nat) : Shallow width [] :=
  Or.inl rfl

theorem shallow_line {width column : Nat} (h : column < width) {c : Char} (hspace : ¬ c = ' ')
    (hbreak : isBreak c = false) (more : List Char) : Shallow width (spaces column ++ c :: more) :=
  Or.inr ⟨column, c, more, h, hspace, hbreak, rfl⟩

theorem Shallow.mono {width wider : Nat} {rest : List Char} (h : Shallow width rest)
    (hwider : width ≤ wider) : Shallow wider rest := by
  rcases h with rfl | ⟨column, c, more, hcolumn, hspace, hbreak, rfl⟩
  · exact shallow_nil wider
  · exact shallow_line (Nat.lt_of_lt_of_le hcolumn hwider) hspace hbreak more

theorem Shallow.ne_spaces {width : Nat} {rest : List Char} (h : Shallow width rest) (c : Char)
    (more : List Char) : ¬ rest = spaces width ++ c :: more := by
  rintro rfl
  rcases h with hnil | ⟨column, d, behind, hcolumn, hspace, -, heq⟩
  · simp at hnil
  · obtain ⟨extra, rfl⟩ : ∃ extra, width = column + (extra + 1) := ⟨width - column - 1, by omega⟩
    rw [spaces_add, List.append_assoc, spaces_succ] at heq
    exact hspace (List.cons.inj (List.append_cancel_left heq)).1.symm

theorem Shallow.ne_break {width : Nat} {rest : List Char} (h : Shallow width rest) {c : Char}
    (hc : isBreak c = true) (more : List Char) : ¬ rest = c :: more := by
  rintro rfl
  rcases h with hnil | ⟨column, d, behind, -, -, hbreak, heq⟩
  · cases hnil
  · exact spaces_ne_break column hbreak hc behind more heq.symm

/-! ## §2. Indented lines. -/

/-- Whether a line begins behind the text, given whether one does in front of it. -/
def freshAfter : Bool → List Char → Bool
  | fresh, [] => fresh
  | _, c :: rest => freshAfter (isBreak c) rest

theorem freshAfter_append (fresh : Bool) (cs ds : List Char) :
    freshAfter fresh (cs ++ ds) = freshAfter (freshAfter fresh cs) ds := by
  induction cs generalizing fresh with
  | nil => rfl
  | cons c cs ih => exact ih (isBreak c)

theorem freshAfter_eq (fresh : Bool) (cs : List Char) :
    freshAfter fresh cs = (cs.getLast?.map isBreak).getD fresh := by
  induction cs generalizing fresh with
  | nil => rfl
  | cons c cs ih =>
    rw [freshAfter, ih, List.getLast?_cons]
    cases cs.getLast? <;> rfl

theorem endsLine_eq (cs : List Char) : endsLine cs = freshAfter false cs := by
  rw [freshAfter_eq, endsLine]
  cases cs.getLast? <;> rfl

theorem freshAfter_of_ne_nil {cs : List Char} (h : ¬ cs = []) (fresh : Bool) :
    freshAfter fresh cs = endsLine cs := by
  rw [endsLine_eq]
  cases cs with
  | nil => exact absurd rfl h
  | cons c cs => rfl

/-- A character in a text of several lines, at the beginning of a line or not. -/
def onLine (width : Nat) (written : Char → List Char) (fresh : Bool) (c : Char) : List Char :=
  if isBreak c then [c] else (if fresh then spaces width else []) ++ written c

theorem onLine_break {width : Nat} {written : Char → List Char} {fresh : Bool} {c : Char}
    (h : isBreak c = true) : onLine width written fresh c = [c] :=
  if_pos h

theorem onLine_of_not_break {width : Nat} {written : Char → List Char} {fresh : Bool} {c : Char}
    (h : isBreak c = false) :
    onLine width written fresh c = (if fresh then spaces width else []) ++ written c :=
  if_neg (by rw [h]; decide)

theorem indentLines_cons (width : Nat) (written : Char → List Char) (fresh : Bool) (c : Char)
    (rest : List Char) :
    indentLines width written fresh (c :: rest)
      = onLine width written fresh c ++ indentLines width written (isBreak c) rest := by
  unfold onLine
  rw [indentLines]
  cases isBreak c <;> rfl

theorem indentLines_append (width : Nat) (written : Char → List Char) (fresh : Bool)
    (cs ds : List Char) :
    indentLines width written fresh (cs ++ ds)
      = indentLines width written fresh cs
        ++ indentLines width written (freshAfter fresh cs) ds := by
  induction cs generalizing fresh with
  | nil => rfl
  | cons c cs ih =>
    rw [List.cons_append, indentLines_cons, ih, indentLines_cons, List.append_assoc]
    rfl

/-- The indent of a character that is no break does not look like one. -/
theorem indent_ne_break (width : Nat) (fresh : Bool) {c d : Char} (hc : isBreak c = false)
    (hd : isBreak d = true) (more rest : List Char) :
    ¬ (if fresh then spaces width else []) ++ c :: more = d :: rest := by
  cases fresh with
  | false => exact spaces_ne_break 0 hc hd more rest
  | true => exact spaces_ne_break width hc hd more rest

section Writers

-- a writer that puts something, or nothing, behind the character itself
variable {width : Nat} {written behind : Char → List Char}
  (hwritten : ∀ c, written c = c :: behind c)

include hwritten

theorem onLine_ne_break {fresh : Bool} {c d : Char} (hc : isBreak c = false)
    (hd : isBreak d = true) (more rest : List Char) :
    ¬ onLine width written fresh c ++ more = d :: rest := by
  rw [onLine_of_not_break hc, hwritten, List.append_assoc]
  exact indent_ne_break width fresh hc hd _ rest

theorem selfDelimiting_onLine (fresh : Bool) :
    SelfDelimiting (fun _ => True) (onLine width written fresh) := by
  intro c d rest rest' _ _ heq
  cases hc : isBreak c with
  | true =>
    cases hd : isBreak d with
    | true =>
      rw [onLine_break hc, onLine_break hd] at heq
      exact List.cons.inj heq
    | false =>
      rw [onLine_break hc] at heq
      exact absurd heq.symm (onLine_ne_break hwritten hd hc rest' rest)
  | false =>
    cases hd : isBreak d with
    | true =>
      rw [onLine_break hd] at heq
      exact absurd heq (onLine_ne_break hwritten hc hd rest rest')
    | false =>
      rw [onLine_of_not_break hc, onLine_of_not_break hd, List.append_assoc, List.append_assoc,
        hwritten, hwritten] at heq
      obtain ⟨rfl, hrest⟩ := List.cons.inj (List.append_cancel_left heq)
      exact ⟨rfl, List.append_cancel_left hrest⟩

/-- **RUN**: indented lines fall into their characters in one way, if what stands
behind them does not go on with one more. -/
theorem indentLines_inj :
    ∀ {cs ds : List Char} {fresh : Bool} {rest rest' : List Char},
      NoItem (fun _ => True) (onLine width written (freshAfter fresh cs)) rest →
      NoItem (fun _ => True) (onLine width written (freshAfter fresh ds)) rest' →
      indentLines width written fresh cs ++ rest = indentLines width written fresh ds ++ rest' →
      cs = ds ∧ rest = rest'
  | [], [], _, _, _, _, _, heq => ⟨rfl, heq⟩
  | [], d :: ds, _, _, _, hrest, _, heq => by
    rw [indentLines_cons, List.append_assoc] at heq
    exact absurd heq (hrest d _ trivial)
  | c :: cs, [], _, _, _, _, hrest', heq => by
    rw [indentLines_cons, List.append_assoc] at heq
    exact absurd heq.symm (hrest' c _ trivial)
  | c :: cs, d :: ds, fresh, _, _, hrest, hrest', heq => by
    rw [indentLines_cons, indentLines_cons, List.append_assoc, List.append_assoc] at heq
    obtain ⟨rfl, hmore⟩ := selfDelimiting_onLine hwritten fresh c d _ _ trivial trivial heq
    rw [freshAfter] at hrest hrest'
    obtain ⟨hchars, hrests⟩ := indentLines_inj hrest hrest' hmore
    exact ⟨by rw [hchars], hrests⟩

end Writers

/-! ## §3. Styles. -/

/-- A text that may stand plain. -/
structure IsPlain (cs : List Char) : Prop where
  /-- It is read as a text. -/
  text : readsAsOther cs = false
  /-- No space or break at an end could be lost. -/
  ends : hasLooseEnd cs = false
  /-- It is one line. -/
  line : cs.any isBreak = false
  /-- It is not taken for structure. -/
  marks : looksStructural cs = false

theorem isPlain_of_styleOf {cs : List Char} (h : styleOf cs = .plain) : IsPlain cs := by
  unfold styleOf at h
  split at h
  · split at h <;> cases h
  split at h
  · cases h
  split at h
  · next hplain =>
    simp only [Bool.and_eq_true, Bool.not_eq_true'] at hplain
    obtain ⟨⟨⟨htext, hends⟩, hline⟩, hmarks⟩ := hplain
    exact ⟨htext, hends, hline, hmarks⟩
  · split at h <;> cases h

theorem newline_mem_of_styleOf {cs : List Char} (h : styleOf cs = .literal) : '\n' ∈ cs := by
  unfold styleOf at h
  split at h
  · next hnewline => exact List.contains_iff_mem.mp hnewline
  · split at h
    · cases h
    · split at h
      · cases h
      · split at h <;> cases h

theorem IsPlain.exists_eq_cons {cs : List Char} (h : IsPlain cs) :
    ∃ c more, cs = c :: more ∧ isIndicator c = false ∧ ¬ c = ' ' ∧ isBreak c = false := by
  cases cs with
  | nil => exact absurd h.text (by decide)
  | cons c more =>
    have hmarks := h.marks
    have hends := h.ends
    unfold looksStructural at hmarks
    unfold hasLooseEnd at hends
    simp only [Bool.or_eq_false_iff] at hmarks
    simp only [List.head?_cons, Option.any_some, Bool.or_eq_false_iff] at hends
    exact ⟨c, more, rfl, hmarks.1.1.1.1, ne_of_beq_false hends.1.1, hends.1.2⟩

/-- The style of a scalar that begins with a character. -/
def styleAt : Char → Style
  | '\'' => .single
  | '"' => .double
  | '|' => .literal
  | _ => .plain

theorem styleAt_of_not_isIndicator {c : Char} (h : isIndicator c = false) :
    styleAt c = .plain := by
  unfold styleAt
  split
  · cases h
  · cases h
  · cases h
  · rfl

/-- **THE FIRST CHARACTER SHOWS THE STYLE**, and it is neither a space nor a break. -/
theorem exists_scalar_eq_cons (width : Nat) (cs : List Char) :
    ∃ c more, scalar width cs = c :: more ∧ styleAt c = styleOf cs ∧ ¬ c = ' '
      ∧ isBreak c = false := by
  unfold scalar
  cases hstyle : styleOf cs with
  | plain =>
    obtain ⟨c, more, rfl, hindicator, hspace, hbreak⟩ := (isPlain_of_styleOf hstyle).exists_eq_cons
    exact ⟨c, more, rfl, styleAt_of_not_isIndicator hindicator, hspace, hbreak⟩
  | single => exact ⟨'\'', _, rfl, rfl, by decide, rfl⟩
  | double => exact ⟨'"', _, rfl, rfl, by decide, rfl⟩
  | literal => exact ⟨'|', _, rfl, rfl, by decide, rfl⟩

theorem styleOf_eq_of_scalar {width : Nat} {cs ds rest rest' : List Char}
    (h : scalar width cs ++ rest = scalar width ds ++ rest') : styleOf cs = styleOf ds := by
  obtain ⟨c, more, hc, hstyle, -⟩ := exists_scalar_eq_cons width cs
  obtain ⟨d, more', hd, hstyle', -⟩ := exists_scalar_eq_cons width ds
  rw [hc, hd] at h
  rw [← hstyle, ← hstyle', (List.cons.inj h).1]

/-! ## §4. Plain texts. -/

theorem scalar_plain {cs : List Char} (h : styleOf cs = .plain) (width : Nat) :
    scalar width cs = cs := by
  unfold scalar
  rw [h]

theorem newline_not_mem_of_line {cs : List Char} (h : cs.any isBreak = false) : '\n' ∉ cs := by
  intro hmem
  have hany := List.any_eq_true.mpr ⟨'\n', hmem, isBreak_newline⟩
  rw [h] at hany
  cases hany

/-- A plain value ends with its line. -/
theorem plain_inj {width : Nat} {cs ds rest rest' : List Char} (hcs : styleOf cs = .plain)
    (hds : styleOf ds = .plain)
    (heq : scalar width cs ++ '\n' :: rest = scalar width ds ++ '\n' :: rest') :
    cs = ds ∧ rest = rest' := by
  rw [scalar_plain hcs, scalar_plain hds] at heq
  exact cut_unique (newline_not_mem_of_line (isPlain_of_styleOf hcs).line)
    (newline_not_mem_of_line (isPlain_of_styleOf hds).line) heq

theorem gapFollows_of_hasInnerMark {left : Char} {before behind : List Char}
    (h : hasInnerMark left (before ++ ':' :: behind) = false) : gapFollows behind = false := by
  induction before generalizing left with
  | nil =>
    simp only [List.nil_append, hasInnerMark, Bool.or_eq_false_iff] at h
    simpa using h.1.1
  | cons c before ih =>
    simp only [List.cons_append, hasInnerMark, Bool.or_eq_false_iff] at h
    exact ih h.2

/-- No colon inside a plain text could end it as a key. -/
theorem IsPlain.gapFollows_eq_false {cs before behind : List Char} (h : IsPlain cs)
    (hcs : cs = before ++ ':' :: behind) (hbefore : ¬ before = []) :
    gapFollows behind = false := by
  cases before with
  | nil => exact absurd rfl hbefore
  | cons c before =>
    have hmarks := h.marks
    rw [hcs, List.cons_append, looksStructural] at hmarks
    simp only [Bool.or_eq_false_iff] at hmarks
    exact gapFollows_of_hasInnerMark hmarks.2

/-- One plain key does not go on behind the colon of another. -/
theorem IsPlain.eq_nil_of_key {cs ds more rest rest' : List Char} (hcs : IsPlain cs)
    (hds : IsPlain ds) (hgap : gapFollows rest = true) (hmore : ds = cs ++ more)
    (heq : ':' :: rest = more ++ ':' :: rest') : more = [] := by
  cases more with
  | nil => rfl
  | cons c more =>
    obtain ⟨rfl, hrest⟩ := List.cons.inj heq
    have hne : ¬ cs = [] := by
      obtain ⟨c, more, rfl, -⟩ := hcs.exists_eq_cons
      exact List.cons_ne_nil c more
    have hinner := hds.gapFollows_eq_false hmore hne
    -- the gap behind the shorter key stands inside the longer one, or at its end
    rw [hrest] at hgap
    cases more with
    | nil => cases hinner
    | cons d more =>
      have hsame : isGap d = true := hgap
      rw [gapFollows, hsame] at hinner
      cases hinner

/-- A plain key ends at the first colon with a gap behind it. -/
theorem plain_key_inj {width : Nat} {cs ds rest rest' : List Char} (hcs : styleOf cs = .plain)
    (hds : styleOf ds = .plain) (hgap : gapFollows rest = true) (hgap' : gapFollows rest' = true)
    (heq : scalar width cs ++ ':' :: rest = scalar width ds ++ ':' :: rest') :
    cs = ds ∧ rest = rest' := by
  rw [scalar_plain hcs, scalar_plain hds] at heq
  have hplain := isPlain_of_styleOf hcs
  have hplain' := isPlain_of_styleOf hds
  rcases List.append_eq_append_iff.mp heq with ⟨more, hmore, hrest⟩ | ⟨more, hmore, hrest⟩
  · have hnil := hplain.eq_nil_of_key hplain' hgap hmore hrest
    rw [hnil, List.append_nil] at hmore
    rw [hnil] at hrest
    exact ⟨hmore.symm, (List.cons.inj hrest).2⟩
  · have hnil := hplain'.eq_nil_of_key hplain hgap' hmore hrest
    rw [hnil, List.append_nil] at hmore
    rw [hnil] at hrest
    exact ⟨hmore, (List.cons.inj hrest).2.symm⟩

/-! ## §5. Quoted texts. -/

theorem singleQuoted_eq (c : Char) :
    singleQuoted c = c :: if c = '\'' then ['\''] else [] := by
  unfold singleQuoted
  split
  · next hc => rw [hc]
  · rfl

/-- A quote that is not doubled ends the lines, behind the indent of the last one. -/
theorem noItem_closingQuote (width : Nat) (fresh : Bool) {rest : List Char}
    (h : ¬ rest.head? = some '\'') :
    NoItem (fun _ => True) (onLine width singleQuoted fresh)
      ((if fresh then spaces width else []) ++ '\'' :: rest) := by
  intro c more _ heq
  cases hc : isBreak c with
  | true =>
    rw [onLine_break hc] at heq
    exact indent_ne_break width fresh rfl hc rest more heq
  | false =>
    rw [onLine_of_not_break hc, List.append_assoc, singleQuoted_eq] at heq
    obtain ⟨rfl, hrest⟩ := List.cons.inj (List.append_cancel_left heq)
    apply h
    rw [hrest]
    rfl

theorem single_inj {width : Nat} {cs ds rest rest' : List Char} (hcs : styleOf cs = .single)
    (hds : styleOf ds = .single) (hrest : ¬ rest.head? = some '\'')
    (hrest' : ¬ rest'.head? = some '\'')
    (heq : scalar width cs ++ rest = scalar width ds ++ rest') : cs = ds ∧ rest = rest' := by
  unfold scalar at heq
  rw [hcs, hds] at heq
  simp only [List.cons_append, List.append_assoc, List.nil_append, endsLine_eq] at heq
  obtain ⟨rfl, hends⟩ := indentLines_inj singleQuoted_eq (noItem_closingQuote width _ hrest)
    (noItem_closingQuote width _ hrest') (List.cons.inj heq).2
  exact ⟨rfl, (List.cons.inj (List.append_cancel_left hends)).2⟩

theorem double_inj {width : Nat} {cs ds rest rest' : List Char} (hcs : styleOf cs = .double)
    (hds : styleOf ds = .double)
    (heq : scalar width cs ++ rest = scalar width ds ++ rest') : cs = ds ∧ rest = rest' := by
  unfold scalar at heq
  rw [hcs, hds] at heq
  simp only [List.cons_append, List.append_assoc, List.nil_append] at heq
  obtain ⟨rfl, hquotes⟩ := selfDelimiting_escape.flatMap_inj (fun _ _ => trivial)
    (fun _ _ => trivial) (noItem_escape_quote rest) (noItem_escape_quote rest')
    (List.cons.inj heq).2
  exact ⟨rfl, (List.cons.inj hquotes).2⟩

/-! ## §6. Literal blocks. -/

/-- A block is marked with its indent or not, and as stripped exactly if its text does
not end with a break. -/
theorem exists_literalMark_eq (cs : List Char) :
    ∃ indent atEnd, literalMark cs = '|' :: indent ++ atEnd
      ∧ indent ∈ [[], ['2']] ∧ atEnd ∈ [[], ['+'], ['-']]
      ∧ (atEnd = ['-'] ↔ endsLine cs = false) := by
  refine ⟨_, _, rfl, ?_, ?_, ?_⟩
  · split <;> decide
  · split
    · decide
    · split <;> decide
    · split
      · decide
      · split <;> decide
  · rw [endsLine, List.getLast?_eq_head?_reverse]
    split
    · next hrev => simp [hrev]
    · next c hrev => cases hc : isBreak c <;> simp [hrev, hc]
    · next c before _ hrev =>
      cases hc : isBreak c <;> cases hbefore : isBreak before <;> simp [hrev, hc]

theorem newline_not_mem_literalMark (cs : List Char) : '\n' ∉ literalMark cs := by
  have hmarks : ∀ indent ∈ [[], ['2']], ∀ atEnd ∈ [[], ['+'], ['-']],
      '\n' ∉ '|' :: indent ++ atEnd := by
    decide
  obtain ⟨indent, atEnd, hmark, hindent, hatEnd, -⟩ := exists_literalMark_eq cs
  rw [hmark]
  exact hmarks indent hindent atEnd hatEnd

theorem getLast?_literalMark (cs : List Char) :
    (literalMark cs).getLast? = some '-' ↔ endsLine cs = false := by
  have hmarks : ∀ indent ∈ [[], ['2']], ∀ atEnd ∈ [[], ['+'], ['-']],
      (('|' :: indent ++ atEnd).getLast? = some '-' ↔ atEnd = ['-']) := by
    decide
  obtain ⟨indent, atEnd, hmark, hindent, hatEnd, hends⟩ := exists_literalMark_eq cs
  rw [← hends, hmark]
  exact hmarks indent hindent atEnd hatEnd

theorem freshAfter_onLine (width : Nat) (fresh other : Bool) (c : Char) :
    freshAfter other (onLine width (fun c => [c]) fresh c) = isBreak c := by
  unfold onLine
  split
  · rfl
  · rw [freshAfter_append]
    rfl

theorem freshAfter_indentLines (width : Nat) (fresh other : Bool) (cs : List Char) :
    freshAfter other (indentLines width (fun c => [c]) fresh cs) = freshAfter other cs := by
  induction cs generalizing fresh other with
  | nil => rfl
  | cons c cs ih =>
    rw [indentLines_cons, freshAfter_append, ih, freshAfter_onLine]
    rfl

theorem freshAfter_closeLine (cs : List Char) : freshAfter true (closeLine cs) = true := by
  unfold closeLine
  split
  · next hends =>
    rw [freshAfter_eq]
    unfold endsLine at hends
    cases hlast : cs.getLast? with
    | none => rfl
    | some c =>
      rw [hlast] at hends
      exact hends
  · rw [freshAfter_append]
    rfl

/-- Ending the last line of a block is ending that of its text. -/
theorem closeLine_block {cs : List Char} (h : ¬ cs = []) (mark : List Char) (width : Nat) :
    closeLine (mark ++ '\n' :: indentLines width (fun c => [c]) true cs)
      = mark ++ '\n' :: indentLines width (fun c => [c]) true (closeLine cs) := by
  have hends : endsLine (mark ++ '\n' :: indentLines width (fun c => [c]) true cs)
      = endsLine cs := by
    rw [endsLine_eq, freshAfter_append, freshAfter, freshAfter_indentLines, freshAfter_of_ne_nil h]
  unfold closeLine
  rw [hends]
  split
  · rfl
  · rw [indentLines_append, List.append_assoc]
    rfl

theorem closeLine_inj {cs ds : List Char} (h : closeLine cs = closeLine ds)
    (hends : endsLine cs = false ↔ endsLine ds = false) : cs = ds := by
  unfold closeLine at h
  cases hcs : endsLine cs with
  | false =>
    rw [hcs, hends.mp hcs] at h
    exact List.append_cancel_right h
  | true =>
    have hds : endsLine ds = true := by
      rw [← Bool.not_eq_false, ← hends, hcs]
      decide
    rw [hcs, hds] at h
    exact h

/-- A line that is indented less, or the end, is no line of a block. -/
theorem Shallow.noItem_onLine {width : Nat} {rest : List Char} (h : Shallow width rest) :
    NoItem (fun _ => True) (onLine width (fun c => [c]) true) rest := by
  intro c more _ heq
  cases hc : isBreak c with
  | true =>
    rw [onLine_break hc] at heq
    exact h.ne_break hc more heq
  | false =>
    rw [onLine_of_not_break hc, List.append_assoc] at heq
    exact h.ne_spaces c more heq

theorem literal_inj {width : Nat} {cs ds rest rest' : List Char} (hcs : styleOf cs = .literal)
    (hds : styleOf ds = .literal) (hrest : Shallow width rest) (hrest' : Shallow width rest')
    (heq : closeLine (scalar width cs) ++ rest = closeLine (scalar width ds) ++ rest') :
    cs = ds ∧ rest = rest' := by
  unfold scalar at heq
  rw [hcs, hds] at heq
  simp only at heq
  rw [closeLine_block (List.ne_nil_of_mem (newline_mem_of_styleOf hcs)),
    closeLine_block (List.ne_nil_of_mem (newline_mem_of_styleOf hds)),
    List.append_assoc, List.append_assoc] at heq
  obtain ⟨hmark, hlines⟩ := cut_unique (newline_not_mem_literalMark cs)
    (newline_not_mem_literalMark ds) heq
  have hwritten : ∀ c : Char, [c] = c :: [] := fun _ => rfl
  obtain ⟨hclosed, hrests⟩ := indentLines_inj hwritten
    (by rw [freshAfter_closeLine]; exact hrest.noItem_onLine)
    (by rw [freshAfter_closeLine]; exact hrest'.noItem_onLine) hlines
  have hends : endsLine cs = false ↔ endsLine ds = false := by
    rw [← getLast?_literalMark, ← getLast?_literalMark, hmark]
  exact ⟨closeLine_inj hclosed hends, hrests⟩

/-! ## §7. All styles. -/

theorem exists_closeLine_append (cs rest : List Char) :
    ∃ behind, closeLine cs ++ rest = cs ++ behind := by
  unfold closeLine
  split
  · exact ⟨rest, rfl⟩
  · exact ⟨_, List.append_assoc cs _ rest⟩

theorem endsLine_of_line {cs : List Char} (h : cs.any isBreak = false) : endsLine cs = false := by
  unfold endsLine
  cases hlast : cs.getLast? with
  | none => rfl
  | some c => exact Bool.eq_false_iff.mpr (List.any_eq_false.mp h c (List.mem_of_getLast? hlast))

theorem closeLine_scalar {cs : List Char} (h : ¬ styleOf cs = .literal) (width : Nat) :
    closeLine (scalar width cs) = scalar width cs ++ ['\n'] := by
  have hends : endsLine (scalar width cs) = false := by
    unfold scalar
    cases hstyle : styleOf cs with
    | plain => exact endsLine_of_line (isPlain_of_styleOf hstyle).line
    | single =>
      rw [endsLine_eq, freshAfter_append]
      rfl
    | double =>
      rw [endsLine_eq, freshAfter_append]
      rfl
    | literal => exact absurd hstyle h
  unfold closeLine
  rw [hends]
  rfl

/-- **A SCALAR WITH ITS LAST LINE ENDED SHOWS ITS TEXT AND WHERE IT ENDS.** -/
theorem delimitedBefore_scalar (width : Nat) :
    DelimitedBefore (Shallow width) (fun _ => True) fun cs => closeLine (scalar width cs) := by
  intro cs ds rest rest' _ _ hrest hrest' heq
  have hsame : styleOf cs = styleOf ds := by
    obtain ⟨behind, hclosed⟩ := exists_closeLine_append (scalar width cs) rest
    obtain ⟨behind', hclosed'⟩ := exists_closeLine_append (scalar width ds) rest'
    exact styleOf_eq_of_scalar (hclosed.symm.trans (heq.trans hclosed'))
  by_cases hliteral : styleOf cs = .literal
  · exact literal_inj hliteral (hsame.symm.trans hliteral) hrest hrest' heq
  have hliteral' : ¬ styleOf ds = .literal := by
    rw [← hsame]
    exact hliteral
  simp only [closeLine_scalar hliteral, closeLine_scalar hliteral', List.append_assoc,
    List.singleton_append] at heq
  cases hstyle : styleOf cs with
  | plain => exact plain_inj hstyle (hsame.symm.trans hstyle) heq
  | single =>
    obtain ⟨hchars, hbreaks⟩ := single_inj hstyle (hsame.symm.trans hstyle) (by simp) (by simp) heq
    exact ⟨hchars, (List.cons.inj hbreaks).2⟩
  | double =>
    obtain ⟨hchars, hbreaks⟩ := double_inj hstyle (hsame.symm.trans hstyle) heq
    exact ⟨hchars, (List.cons.inj hbreaks).2⟩
  | literal => exact absurd hstyle hliteral

/-- **A SCALAR IN FRONT OF A COLON AND A GAP SHOWS ITS TEXT**, if that is one line. -/
theorem scalar_key_inj {width : Nat} {cs ds rest rest' : List Char}
    (hcs : cs.any isBreak = false) (hgap : gapFollows rest = true) (hgap' : gapFollows rest' = true)
    (heq : scalar width cs ++ ':' :: rest = scalar width ds ++ ':' :: rest') :
    cs = ds ∧ rest = rest' := by
  have hsame := styleOf_eq_of_scalar heq
  cases hstyle : styleOf cs with
  | plain => exact plain_key_inj hstyle (hsame.symm.trans hstyle) hgap hgap' heq
  | single =>
    obtain ⟨hchars, hcolons⟩ := single_inj hstyle (hsame.symm.trans hstyle) (by simp) (by simp) heq
    exact ⟨hchars, (List.cons.inj hcolons).2⟩
  | double =>
    obtain ⟨hchars, hcolons⟩ := double_inj hstyle (hsame.symm.trans hstyle) heq
    exact ⟨hchars, (List.cons.inj hcolons).2⟩
  | literal => exact absurd (newline_mem_of_styleOf hstyle) (newline_not_mem_of_line hcs)

/-- No scalar looks like the mark of a key that has lines of its own. -/
theorem scalar_ne_explicit (width : Nat) (cs rest more : List Char) :
    ¬ scalar width cs ++ ':' :: rest = '?' :: ' ' :: more := by
  intro heq
  have hplain : styleOf cs = .plain := by
    obtain ⟨c, behind, hcs, hstyle, -⟩ := exists_scalar_eq_cons width cs
    rw [hcs] at heq
    rw [← hstyle, (List.cons.inj heq).1]
    rfl
  have hmarks := (isPlain_of_styleOf hplain).marks
  obtain ⟨c, behind, rfl, -⟩ := (isPlain_of_styleOf hplain).exists_eq_cons
  rw [scalar_plain hplain] at heq
  obtain ⟨rfl, hbehind⟩ := List.cons.inj heq
  -- behind a question mark a plain text neither ends nor has a gap
  have hgap : gapFollows behind = true := by
    cases behind with
    | nil => rfl
    | cons d behind =>
      rw [gapFollows, (List.cons.inj hbehind).1]
      rfl
  simp [looksStructural, hgap] at hmarks

end MarkupShorthand.Yaml
