/-
  MarkupShorthand.Proofs.Json.Quoted
  ──────────────────────────────────
  **A JSON STRING IS READ BACK, WHATEVER STANDS BEHIND IT; SO IT SHOWS WHERE IT
  ENDS.**

      scanString_escape       one escaped character is read as that character
      scanString_quoted       a quoted text is read to its closing quote
      quotedChars_append_inj  so no other quoted text begins the same way
-/
import MarkupShorthand.Json.Quoted
import MarkupShorthand.Json.Scan

namespace MarkupShorthand.Json

/-! ## §1. How a character is escaped. -/

/-- The digits of a control character are read as its code. -/
theorem codeUnit?_hexDigits :
    ∀ n < 0x20, codeUnit? '0' '0' (hexDigit (n / 16)) (hexDigit (n % 16)) = some n := by
  decide

/-- A character is escaped by one letter, by its code, or not at all. -/
theorem escape_cases (c : Char) :
    (∃ letter, ¬ letter = 'u' ∧ shortEscape? letter = some c ∧ escape c = ['\\', letter])
    ∨ (c.toNat < 0x20
        ∧ escape c = ['\\', 'u', '0', '0', hexDigit (c.toNat / 16), hexDigit (c.toNat % 16)])
    ∨ (¬ c = '"' ∧ ¬ c = '\\' ∧ ¬ c.toNat < 0x20 ∧ escape c = [c]) := by
  have hcode : ∀ {n}, c.toNat = n → some (Char.ofNat n) = some c := by
    intro n hn
    rw [← hn, Char.ofNat_toNat]
  unfold escape
  split
  · next hc => exact Or.inl ⟨'"', by decide, congrArg some hc.symm, rfl⟩
  split
  · next hc => exact Or.inl ⟨'\\', by decide, congrArg some hc.symm, rfl⟩
  split
  · next hcontrol =>
    split
    · next hn => exact Or.inl ⟨'b', by decide, hcode hn, rfl⟩
    split
    · next hn => exact Or.inl ⟨'t', by decide, hcode hn, rfl⟩
    split
    · next hn => exact Or.inl ⟨'n', by decide, hcode hn, rfl⟩
    split
    · next hn => exact Or.inl ⟨'f', by decide, hcode hn, rfl⟩
    split
    · next hn => exact Or.inl ⟨'r', by decide, hcode hn, rfl⟩
    · exact Or.inr (Or.inl ⟨hcontrol, rfl⟩)
  · next hquote hslash hcontrol => exact Or.inr (Or.inr ⟨hquote, hslash, hcontrol, rfl⟩)

theorem newline_ne_hexDigits :
    ∀ n < 0x20, ¬ '\n' = hexDigit (n / 16) ∧ ¬ '\n' = hexDigit (n % 16) := by
  decide

/-- A line feed never stands in a JSON string as it is. -/
theorem newline_not_mem_escape (c : Char) : '\n' ∉ escape c := by
  rcases escape_cases c with ⟨letter, -, hshort, h⟩ | ⟨hcontrol, h⟩ | ⟨-, -, hcontrol, h⟩
  · have hletter : ¬ '\n' = letter := by
      rintro rfl
      cases hshort
    rw [h]
    simp [hletter]
  · obtain ⟨hhigh, hlow⟩ := newline_ne_hexDigits c.toNat hcontrol
    rw [h]
    simp [hhigh, hlow]
  · have hc : ¬ '\n' = c := by
      rintro rfl
      exact hcontrol (by decide)
    rw [h]
    simp [hc]

theorem newline_not_mem_quotedChars (cs : List Char) : '\n' ∉ quotedChars cs := by
  simp [quotedChars, newline_not_mem_escape]

/-! ## §2. How an escaped character is read. -/

theorem scanString_short {letter c : Char} (hletter : ¬ letter = 'u')
    (h : shortEscape? letter = some c) (rest : List Char) :
    scanString ('\\' :: letter :: rest) = (scanString rest).cons c := by
  rw [scanString]
  · simp only [h]
  · intro _ _ _ _ _ e
    exact absurd e hletter
  · exact hletter

theorem scanString_unit {a b c d : Char} {n : Nat} (h : codeUnit? a b c d = some n)
    (hn : n < 0xD800) (rest : List Char) :
    scanString ('\\' :: 'u' :: a :: b :: c :: d :: rest)
      = (scanString rest).cons (Char.ofNat n) := by
  have hlow : isLowSurrogate n = false := by
    simp [isLowSurrogate]
    omega
  have hhigh : isHighSurrogate n = false := by
    simp [isHighSurrogate]
    omega
  rw [scanString]
  simp only [h, hlow, hhigh, Bool.false_eq_true, if_false]

theorem scanString_plain {c : Char} (hquote : ¬ c = '"') (hslash : ¬ c = '\\')
    (hcontrol : ¬ c.toNat < 0x20) (rest : List Char) :
    scanString (c :: rest) = (scanString rest).cons c := by
  rw [scanString]
  · rw [if_neg hcontrol]
  · exact hquote
  -- the other patterns all begin with a backslash
  all_goals
    intros
    contradiction

/-- **STEP**: an escaped character is read as what it was. -/
theorem scanString_escape (c : Char) (rest : List Char) :
    scanString (escape c ++ rest) = (scanString rest).cons c := by
  rcases escape_cases c with ⟨letter, hletter, hshort, h⟩ | ⟨hcontrol, h⟩
    | ⟨hquote, hslash, hcontrol, h⟩
  · rw [h]
    exact scanString_short hletter hshort rest
  · have hread := scanString_unit (codeUnit?_hexDigits c.toNat hcontrol) (by omega) rest
    rw [Char.ofNat_toNat] at hread
    rw [h]
    exact hread
  · rw [h]
    exact scanString_plain hquote hslash hcontrol rest

/-! ## §3. A whole text. -/

/-- **RUN**: a quoted text is read to its closing quote. -/
theorem scanString_quoted (cs rest : List Char) :
    scanString (cs.flatMap escape ++ '"' :: rest) = .closed (some cs) rest := by
  induction cs with
  | nil =>
    show scanString ('"' :: rest) = _
    rw [scanString]
  | cons c cs ih =>
    rw [List.flatMap_cons, List.append_assoc, scanString_escape, ih]
    rfl

/-- **A QUOTED TEXT SHOWS WHERE IT ENDS.** -/
theorem quotedChars_append_inj {cs cs' rest rest' : List Char}
    (h : quotedChars cs ++ rest = quotedChars cs' ++ rest') : cs = cs' ∧ rest = rest' := by
  have hchars : ∀ ds more : List Char,
      quotedChars ds ++ more = '"' :: (ds.flatMap escape ++ '"' :: more) := by
    intro ds more
    simp [quotedChars]
  rw [hchars, hchars] at h
  -- behind the quote, both texts are read to what they quote and what is left
  have hread := congrArg scanString (List.cons.inj h).2
  rw [scanString_quoted, scanString_quoted, StringScan.closed.injEq, Option.some.injEq] at hread
  exact hread

end MarkupShorthand.Json
