/-
  MarkupShorthand.Decimal.Numeral
  ───────────────────────────────
  **DIGITS STAND FOR NATURAL NUMBERS; A POINT AND AN EXPONENT SCALE THEM BY A
  POWER OF TEN.**

  `naturalOf?` reads digits in a base up to thirty-six, of either letter case.
  `Numeral.ofChars?` reads an unsigned decimal numeral: digits before or behind
  a point, or on both sides, then perhaps an exponent.  Its value is exact.
-/

namespace MarkupShorthand.Decimal

/-! ## §1. Digits. -/

/-- The value of a digit, letters standing for ten and more. -/
def digitValue? (c : Char) : Option Nat :=
  if '0' ≤ c ∧ c ≤ '9' then some (c.toNat - '0'.toNat)
  else if 'a' ≤ c ∧ c ≤ 'z' then some (c.toNat - 'a'.toNat + 10)
  else if 'A' ≤ c ∧ c ≤ 'Z' then some (c.toNat - 'A'.toNat + 10)
  else none

/-- The number that digits in a base stand for, continuing from a number to
their left. -/
def continueNatural (base : Nat) : Nat → List Char → Option Nat
  | value, [] => some value
  | value, c :: rest =>
    match digitValue? c with
    | none => none
    | some digit =>
      if digit < base then continueNatural base (value * base + digit) rest else none

/-- The number that one or more digits in a base stand for. -/
def naturalOf? (base : Nat) : List Char → Option Nat
  | [] => none
  | c :: rest => continueNatural base 0 (c :: rest)

/-! ## §2. Numerals. -/

/-- The number `digits · 10 ^ exponent`. -/
structure Numeral where
  /-- The digits without the point. -/
  digits : Nat
  /-- The power of ten that they are scaled by. -/
  exponent : Int
  deriving DecidableEq, Inhabited

/-- The exponent behind a mantissa: nothing, or `e` with an integer. -/
def exponentOf? : List Char → Option Int
  | [] => some 0
  | e :: rest =>
    if e = 'e' ∨ e = 'E' then
      match rest with
      | '-' :: digits => (naturalOf? 10 digits).map fun n => -(n : Int)
      | '+' :: digits => (naturalOf? 10 digits).map fun n => (n : Int)
      | digits => (naturalOf? 10 digits).map fun n => (n : Int)
    else none

/-- The number of an unsigned decimal numeral. -/
def Numeral.ofChars? (cs : List Char) : Option Numeral :=
  let whole := cs.takeWhile Char.isDigit
  let behind := cs.dropWhile Char.isDigit
  let (fraction, tail) :=
    match behind with
    | '.' :: rest => (rest.takeWhile Char.isDigit, rest.dropWhile Char.isDigit)
    | _ => ([], behind)
  match naturalOf? 10 (whole ++ fraction), exponentOf? tail with
  | some digits, some exponent => some ⟨digits, exponent - fraction.length⟩
  | _, _ => none

end MarkupShorthand.Decimal
