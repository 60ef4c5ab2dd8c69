/-
  MarkupShorthand.Text.CharClass
  ──────────────────────────────
  **A CLASS OF CHARACTERS IS A LIST OF RANGES, ASCENDING AND APART.**

  The tables that list the members of a property are such classes, and their
  data are those of Unicode 17.0.  The first range that does not end before a
  character decides about it, so the ranges have to ascend, and a class carries
  that they do.
-/

namespace MarkupShorthand.Text

/-! ## §1. Ranges. -/

/-- Whether ranges are proper, ascending and apart, from a number on. -/
def ascendingFrom (least : Nat) : List (Nat × Nat) → Bool
  | [] => true
  | (first, last) :: rest =>
    decide (least ≤ first) && decide (first ≤ last) && ascendingFrom (last + 1) rest

/-- Whether a number lies in a range, where the first range that does not end
before it decides. -/
def liesIn (n : Nat) : List (Nat × Nat) → Bool
  | [] => false
  | (first, last) :: rest => if n ≤ last then decide (first ≤ n) else liesIn n rest

/-! ## §2. Classes. -/

/-- A class of characters. -/
structure CharClass where
  /-- The first and the last number of each range. -/
  ranges : List (Nat × Nat)
  /-- The ranges ascend and are apart. -/
  ascending : ascendingFrom 0 ranges = true

/-- Whether a character belongs to a class. -/
def CharClass.holds (members : CharClass) (c : Char) : Bool :=
  liesIn c.toNat members.ranges

end MarkupShorthand.Text
