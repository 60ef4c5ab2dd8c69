/-
  MarkupShorthand.Decimal.Shortest
  ────────────────────────────────
  **A NUMBER IS WRITTEN WITH THE FEWEST DIGITS THAT READ BACK, AND OF THOSE
  WITH THE NEAREST.**

  The decimals that read back as a binary64 number are an interval around it,
  its ends included when the mantissa is even.  For one digit, two digits and so
  on the two neighbours of the number on that decimal grid are tried; the first
  grid with a neighbour inside the interval gives the digits, and of two
  neighbours at the same distance the upper one.

  `positional` writes the result without an exponent, however large or small.
-/
import MarkupShorthand.Decimal.Binary64

namespace MarkupShorthand.Decimal

namespace Binary64

/-- The number, and the ends of the interval that reads back as it, over a
common denominator: value, lower end, upper end, denominator. -/
def interval (value : Binary64) : Nat × Nat × Nat × Nat :=
  let atPowerOfTwo := value.mantissa = Nat.pow 2 52 ∧ value.exponent > leastExponent
  -- quarters of the last binary digit keep both ends whole
  let num := 4 * value.mantissa
  let low := if atPowerOfTwo then num - 1 else num - 2
  let high := num + 2
  if 0 ≤ value.exponent then
    let scale := Nat.pow 2 value.exponent.toNat
    (num * scale, low * scale, high * scale, 4)
  else (num, low, high, 4 * Nat.pow 2 (-value.exponent).toNat)

/-- Of the two multiples of `10 ^ exponent` around the number, the nearer one
that reads back, as the numeral `digits · 10 ^ exponent`; of two at the same
distance the upper one. -/
def onGrid (value : Binary64) (exponent : Int) : Option Numeral :=
  let (num, low, high, den) := value.interval
  let closed := value.mantissa % 2 = 0
  -- everything over the denominator `den · 10 ^ -exponent`, or `10 ^ exponent` to the right
  let up := Nat.pow 10 (-exponent).toNat
  let step := den * Nat.pow 10 exponent.toNat
  let below := num * up / step
  let inside (n : Nat) : Bool :=
    let point := n * step
    if closed then low * up ≤ point ∧ point ≤ high * up
    else low * up < point ∧ point < high * up
  let below? := inside below
  let above? := inside (below + 1)
  let nearerBelow : Bool := 2 * (num * up - below * step) < step
  if below? && (nearerBelow || !above?) then some ⟨below, exponent⟩
  else if above? then some ⟨below + 1, exponent⟩
  else none

/-- Tries grids from a coarse one to finer ones. -/
def searchGrids (value : Binary64) : Nat → Int → Numeral
  | 0, exponent => (value.onGrid exponent).getD ⟨0, 0⟩
  | steps + 1, exponent =>
    match value.onGrid exponent with
    | some numeral => numeral
    | none => searchGrids value steps (exponent - 1)

/-- The shortest numeral that reads back as the number. -/
def shortest (value : Binary64) : Numeral :=
  if value.mantissa = 0 then ⟨0, 0⟩
  else
    let (num, _, _, den) := value.interval
    let places : Int := (Nat.toDigits 10 (num / den)).length
    let leading : Int :=
      if num / den = 0 then -((Nat.toDigits 10 (den / num)).length : Int) else places
    value.searchGrids 20 leading

end Binary64

/-- A numeral without an exponent: the digits, the point where it falls, and no
zeros behind the last digit of a fraction. -/
def Numeral.positional (numeral : Numeral) : String :=
  if numeral.digits = 0 then "0"
  else if 0 ≤ numeral.exponent then
    toString (numeral.digits * Nat.pow 10 numeral.exponent.toNat)
  else
    let places := (-numeral.exponent).toNat
    let digits := Nat.toDigits 10 numeral.digits
    let padded := List.replicate (places + 1 - digits.length) '0' ++ digits
    let whole := padded.take (padded.length - places)
    let fraction := padded.drop (padded.length - places)
    let kept := fraction.foldr (fun c rest => if rest.isEmpty && c == '0' then [] else c :: rest) []
    .ofList (if kept.isEmpty then whole else whole ++ '.' :: kept)

end MarkupShorthand.Decimal
