/-
  MarkupShorthand.Decimal.Double
  ──────────────────────────────
  **A BINARY64 NUMBER WITH ITS SIGN, THE INFINITIES AND NOT-A-NUMBER.**
-/
import MarkupShorthand.Decimal.Shortest

namespace MarkupShorthand.Decimal

/-- A binary64 number. -/
inductive Double where
  /-- A finite number; zero has a sign too. -/
  | finite (negative : Bool) (magnitude : Binary64)
  /-- An infinity. -/
  | infinite (negative : Bool)
  /-- Not a number. -/
  | nan
  deriving DecidableEq, Inhabited

namespace Double

/-- The number nearest to a numeral with a sign, an infinity if that is beyond
the finite ones. -/
def ofNumeral (negative : Bool) (numeral : Numeral) : Double :=
  match Binary64.ofNumeral? numeral with
  | some magnitude => .finite negative magnitude
  | none => .infinite negative

/-- Whether the number is zero, of either sign. -/
def isZero : Double → Bool
  | .finite _ magnitude => magnitude.mantissa == 0
  | _ => false

/-- Whether the number is finite. -/
def isFinite : Double → Bool
  | .finite _ _ => true
  | _ => false

/-- The number with the fewest digits that read back, without an exponent. -/
def text : Double → String
  | .finite negative magnitude =>
    (if negative then "-" else "") ++ magnitude.shortest.positional
  | .infinite negative => if negative then "-inf" else "inf"
  | .nan => "NaN"

/-- The same text with a point in it, for a finite number. -/
def pointedText (value : Double) : String :=
  if value.isFinite && !value.text.toList.contains '.' then value.text ++ ".0" else value.text

end Double

end MarkupShorthand.Decimal
