/-
  MarkupShorthand.Decimal.Binary64
  ────────────────────────────────
  **A BINARY64 NUMBER IS A WHOLE NUMBER BELOW 2^53 TIMES A POWER OF TWO; A
  NUMERAL STANDS FOR THE NEAREST ONE.**

  All arithmetic is exact, on natural numbers.  `nearest` rounds a quotient to
  53 binary digits, ties to the even neighbour, with fewer digits below the
  normal range; `ofNumeral?` has no answer when the result would not be finite.
-/
import MarkupShorthand.Decimal.Numeral

namespace MarkupShorthand.Decimal

/-- The finite, nonnegative number `mantissa · 2 ^ exponent`. -/
structure Binary64 where
  /-- A whole number below `2 ^ 53`. -/
  mantissa : Nat
  /-- The power of two. -/
  exponent : Int
  deriving DecidableEq, Inhabited

namespace Binary64

/-- The least exponent of two. -/
def leastExponent : Int := -1074

/-- The greatest exponent of two. -/
def greatestExponent : Int := 971

/-- The whole number nearest to a quotient, a tie going to the even one. -/
def roundQuotient (num den : Nat) : Nat :=
  let quotient := num / den
  let twice := 2 * (num % den)
  if twice < den then quotient
  else if twice > den then quotient + 1
  else if quotient % 2 = 0 then quotient else quotient + 1

/-- The greatest power of two that is not above a positive quotient. -/
def floorLog2 (num den : Nat) : Int :=
  let estimate : Int := (Nat.log2 num : Int) - Nat.log2 den
  let fits :=
    if 0 ≤ estimate then den * Nat.pow 2 estimate.toNat ≤ num
    else den ≤ num * Nat.pow 2 (-estimate).toNat
  if fits then estimate else estimate - 1

/-- The number nearest to a quotient, none if that is beyond the finite ones. -/
def nearest (num den : Nat) : Option Binary64 :=
  if num = 0 then some ⟨0, leastExponent⟩
  else
    let exponent := max leastExponent (floorLog2 num den - 52)
    let mantissa :=
      if 0 ≤ exponent then roundQuotient num (den * Nat.pow 2 exponent.toNat)
      else roundQuotient (num * Nat.pow 2 (-exponent).toNat) den
    let result : Binary64 :=
      if mantissa = Nat.pow 2 53 then ⟨Nat.pow 2 52, exponent + 1⟩ else ⟨mantissa, exponent⟩
    if result.exponent ≤ greatestExponent then some result else none

/-- The number nearest to a numeral, none if that is beyond the finite ones.
Numerals far outside the range are decided by their number of digits. -/
def ofNumeral? (numeral : Numeral) : Option Binary64 :=
  if numeral.digits = 0 then some ⟨0, leastExponent⟩
  else
    let places := numeral.exponent + (Nat.toDigits 10 numeral.digits).length
    if places > 400 then none
    else if places < -400 then some ⟨0, leastExponent⟩
    else if 0 ≤ numeral.exponent then nearest (numeral.digits * Nat.pow 10 numeral.exponent.toNat) 1
    else nearest numeral.digits (Nat.pow 10 (-numeral.exponent).toNat)

end Binary64

end MarkupShorthand.Decimal
