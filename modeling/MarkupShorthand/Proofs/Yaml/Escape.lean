/-
  MarkupShorthand.Proofs.Yaml.Escape
  ──────────────────────────────────
  **A CHARACTER IN DOUBLE QUOTES IS READ BACK, WHATEVER STANDS BEHIND IT.**

      continueNatural_upperHex   the digits of a code are read as the code
      readEscape_escape          an escaped character is read as the character
      selfDelimiting_escape      so no text begins with two of them
-/
import MarkupShorthand.Proofs.Text.Joined
import MarkupShorthand.Yaml.Scalar

namespace MarkupShorthand.Yaml

open Decimal Text

/-! ## §1. Codes. -/

/-- The digit that stands for a number below sixteen. -/
def upperDigit (digit : Nat) : Char :=
  if digit < 10 then Char.ofNat ('0'.toNat + digit) else Char.ofNat ('A'.toNat + (digit - 10))

theorem digitValue?_upperDigit : ∀ digit < 16, digitValue? (upperDigit digit) = some digit := by
  decide

theorem upperHex_succ (digits n : Nat) :
    upperHex (digits + 1) n = upperDigit (n / Nat.pow 16 digits % 16) :: upperHex digits n := by
  unfold upperHex
  rw [List.range_succ, List.reverse_append, List.map_append]
  rfl

theorem length_upperHex (digits n : Nat) : (upperHex digits n).length = digits := by
  simp [upperHex]

/-- The last digits of a number are read as what it leaves modulo a power. -/
theorem continueNatural_upperHex (digits n value : Nat) :
    continueNatural 16 value (upperHex digits n)
      = some (value * Nat.pow 16 digits + n % Nat.pow 16 digits) := by
  induction digits generalizing value with
  | zero =>
    have hpow : Nat.pow 16 0 = 1 := rfl
    rw [hpow, Nat.mul_one, Nat.mod_one, Nat.add_zero]
    rfl
  | succ digits ih =>
    have hdigit : n / Nat.pow 16 digits % 16 < 16 := Nat.mod_lt _ (by decide)
    have hmod : n % Nat.pow 16 (digits + 1)
        = n % Nat.pow 16 digits + Nat.pow 16 digits * (n / Nat.pow 16 digits % 16) :=
      Nat.mod_pow_succ
    have hpow : Nat.pow 16 (digits + 1) = Nat.pow 16 digits * 16 := rfl
    have hvalue : value * Nat.pow 16 (digits + 1) + n % Nat.pow 16 (digits + 1)
        = (value * 16 + n / Nat.pow 16 digits % 16) * Nat.pow 16 digits
          + n % Nat.pow 16 digits := by
      rw [hmod, hpow, Nat.add_mul, Nat.mul_assoc, Nat.mul_comm 16 (Nat.pow 16 digits),
        Nat.mul_comm (n / Nat.pow 16 digits % 16), Nat.add_assoc,
        Nat.add_comm (n % Nat.pow 16 digits)]
    rw [upperHex_succ, continueNatural, digitValue?_upperDigit _ hdigit]
    simp only [hdigit, if_true]
    rw [ih, hvalue]

theorem naturalOf?_upperHex {digits n : Nat} (hdigits : 0 < digits) (hn : n < Nat.pow 16 digits) :
    naturalOf? 16 (upperHex digits n) = some n := by
  obtain ⟨more, rfl⟩ : ∃ more, digits = more + 1 := ⟨digits - 1, by omega⟩
  have hread := continueNatural_upperHex (more + 1) n 0
  rw [Nat.zero_mul, Nat.zero_add, Nat.mod_eq_of_lt hn] at hread
  rw [upperHex_succ] at hread ⊢
  exact hread

/-! ## §2. Characters. -/

/-- How many digits stand behind the mark of a code. -/
def codeLength? : Char → Option Nat
  | 'x' => some 2
  | 'u' => some 4
  | 'U' => some 8
  | _ => none

/-- The first character of a text in double quotes and what stands behind it, unless
the text is at its closing quote. -/
def readEscape : List Char → Option (Char × List Char)
  | '\\' :: mark :: rest =>
    match codeLength? mark with
    | some digits =>
      (naturalOf? 16 (rest.take digits)).map fun n => (Char.ofNat n, rest.drop digits)
    | none =>
      (shortEscapes.find? fun entry => entry.2 == mark).map fun entry => (Char.ofNat entry.1, rest)
  | '"' :: _ => none
  | c :: rest => some (c, rest)
  | [] => none

/-- No two characters share a letter, and none has a letter that marks a code. -/
theorem find?_shortEscapes : ∀ entry ∈ shortEscapes, codeLength? entry.2 = none
    ∧ (shortEscapes.find? fun other => other.2 == entry.2) = some entry := by
  decide

theorem readEscape_code {mark : Char} {digits : Nat} (hmark : codeLength? mark = some digits)
    (hdigits : 0 < digits) {c : Char} (hc : c.toNat < Nat.pow 16 digits) (rest : List Char) :
    readEscape ('\\' :: mark :: upperHex digits c.toNat ++ rest) = some (c, rest) := by
  have htake : (upperHex digits c.toNat ++ rest).take digits = upperHex digits c.toNat :=
    List.take_left' (length_upperHex digits c.toNat)
  have hdrop : (upperHex digits c.toNat ++ rest).drop digits = rest :=
    List.drop_left' (length_upperHex digits c.toNat)
  simp only [List.cons_append, readEscape, hmark, htake, hdrop, naturalOf?_upperHex hdigits hc,
    Option.map_some, Char.ofNat_toNat]

/-- **AN ESCAPED CHARACTER IS READ AS THE CHARACTER.** -/
theorem readEscape_escape (c : Char) (rest : List Char) :
    readEscape (escape c ++ rest) = some (c, rest) := by
  unfold escape
  split
  · next hplain =>
    simp only [Bool.and_eq_true, bne_iff_ne] at hplain
    obtain ⟨⟨-, hquote⟩, hslash⟩ := hplain
    rw [List.singleton_append]
    unfold readEscape
    split
    · next h => exact absurd (List.cons.inj h).1 hslash
    · next h => exact absurd (List.cons.inj h).1 hquote
    · next h => rw [← (List.cons.inj h).1, ← (List.cons.inj h).2]
    · next h => cases h
  split
  · next letter hletter =>
    obtain ⟨ahead, behind, htable, -⟩ := List.lookup_eq_some_iff.mp hletter
    have hmem : (c.toNat, letter) ∈ shortEscapes := by
      rw [htable]
      exact List.mem_append_right _ List.mem_cons_self
    obtain ⟨hcode, hfind⟩ := find?_shortEscapes _ hmem
    simp only [List.cons_append, List.nil_append, readEscape, hcode, hfind, Option.map_some,
      Char.ofNat_toNat]
  split
  · next hcode =>
    exact readEscape_code rfl (by decide) (Nat.lt_of_le_of_lt hcode (by decide)) rest
  split
  · next hcode =>
    exact readEscape_code rfl (by decide) (Nat.lt_of_le_of_lt hcode (by decide)) rest
  · exact readEscape_code rfl (by decide) (Nat.lt_of_lt_of_le c.val.toNat_lt (by decide)) rest

theorem selfDelimiting_escape : SelfDelimiting (fun _ => True) escape := by
  intro c d rest rest' _ _ heq
  have hread := congrArg readEscape heq
  rw [readEscape_escape, readEscape_escape] at hread
  exact Prod.mk.inj (Option.some.inj hread)

/-- No character looks like the closing quote. -/
theorem noItem_escape_quote (rest : List Char) : NoItem (fun _ => True) escape ('"' :: rest) := by
  intro c more _ heq
  have hread := congrArg readEscape heq
  rw [readEscape_escape] at hread
  cases hread

end MarkupShorthand.Yaml
