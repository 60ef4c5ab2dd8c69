/-
  MarkupShorthand.Toml.Scalar
  ───────────────────────────
  **NUMBERS, TRUTH VALUES AND DATES ARE WORDS: EACH IS READ WHOLE OR NOT AT
  ALL.**

  A word ends where a blank, a comma, a bracket, a brace or a comment begins.
  Digits may be grouped by single underscores.
-/
import MarkupShorthand.Toml.Value

namespace MarkupShorthand.Toml

open Decimal

/-! ## §1. Digits. -/

/-- Digits without the underscores between them; an underscore stands between two
digits. -/
def ungroup (isDigit : Char → Bool) : List Char → Option (List Char)
  | [] => none
  | [c] => if isDigit c then some [c] else none
  | c :: '_' :: rest =>
    if isDigit c then (ungroup isDigit rest).map (c :: ·) else none
  | c :: rest =>
    if isDigit c then (ungroup isDigit rest).map (c :: ·) else none

/-- Decimal digits, grouped or not. -/
def decimalDigits (cs : List Char) : Option (List Char) :=
  ungroup Char.isDigit cs

/-- Decimal digits of a whole number: no zero in front. -/
def wholeDigits (cs : List Char) : Option (List Char) :=
  match decimalDigits cs with
  | some ['0'] => some ['0']
  | some ('0' :: _) => none
  | other => other

/-- Whether a word begins with a minus, and the word without its sign. -/
def splitSign : List Char → Bool × List Char
  | '-' :: rest => (true, rest)
  | '+' :: rest => (false, rest)
  | cs => (false, cs)

/-! ## §2. Numbers. -/

/-- A number in base sixteen, eight or two. -/
def basedInteger (base : Nat) (cs : List Char) : Option Value :=
  let isDigit (c : Char) : Bool := (naturalOf? base [c]).isSome
  match (ungroup isDigit cs).bind (naturalOf? base) with
  | none => none
  | some n => if n < Nat.pow 2 63 then some (.integer n) else none

/-- An integer of 64 bits. -/
def integer? (word : List Char) : Option Value :=
  match word with
  | '0' :: 'x' :: rest => basedInteger 16 rest
  | '0' :: 'o' :: rest => basedInteger 8 rest
  | '0' :: 'b' :: rest => basedInteger 2 rest
  | _ =>
    let (negative, body) := splitSign word
    match (wholeDigits body).bind (naturalOf? 10) with
    | none => none
    | some n =>
      if negative then
        if n ≤ Nat.pow 2 63 then some (.integer (-(n : Int))) else none
      else if n < Nat.pow 2 63 then some (.integer n) else none

/-- The exponent of a number behind its `e`. -/
def exponent? (cs : List Char) : Option (List Char) :=
  match cs with
  | '-' :: rest => (decimalDigits rest).map ('-' :: ·)
  | '+' :: rest => decimalDigits rest
  | _ => decimalDigits cs

/-- A number with a fraction or an exponent, without its sign, as a numeral. -/
def pointNumeral? (body : List Char) : Option Numeral :=
  let whole := body.takeWhile fun c => c != '.' && c != 'e' && c != 'E'
  let behind := body.dropWhile fun c => c != '.' && c != 'e' && c != 'E'
  match wholeDigits whole, behind with
  | some whole, '.' :: rest =>
    let fraction := rest.takeWhile fun c => c != 'e' && c != 'E'
    match decimalDigits fraction, rest.dropWhile fun c => c != 'e' && c != 'E' with
    | some fraction, [] => Numeral.ofChars? (whole ++ '.' :: fraction)
    | some fraction, _ :: power =>
      (exponent? power).bind fun power =>
        Numeral.ofChars? (whole ++ '.' :: fraction ++ 'e' :: power)
    | none, _ => none
  | some whole, _ :: power =>
    (exponent? power).bind fun power => Numeral.ofChars? (whole ++ 'e' :: power)
  | _, _ => none

/-- A float; one that is too large is refused unless it is negative. -/
def float? (word : List Char) : Option Value :=
  let (negative, body) := splitSign word
  if body = ['i', 'n', 'f'] then some (.float (.infinite negative))
  else if body = ['n', 'a', 'n'] then some (.float .nan)
  else
    match (pointNumeral? body).map (Double.ofNumeral negative) with
    | none => none
    | some (.infinite false) => none
    | some value => some (.float value)

/-! ## §3. Dates and times. -/

/-- The number that a fixed count of digits stands for, if it is in a range. -/
def field? (least greatest : Nat) (digits : List Char) : Option Nat :=
  if digits.all Char.isDigit then
    (naturalOf? 10 digits).filter fun n => least ≤ n && n ≤ greatest
  else none

/-- The number of days of a month. -/
def daysInMonth (year month : Nat) : Nat :=
  if month = 2 then
    if year % 4 = 0 ∧ (year % 100 ≠ 0 ∨ year % 400 = 0) then 29 else 28
  else if month = 4 ∨ month = 6 ∨ month = 9 ∨ month = 11 then 30
  else 31

/-- Whether the text is a date: year, month and day. -/
def isDate : List Char → Bool
  | [y1, y2, y3, y4, '-', m1, m2, '-', d1, d2] =>
    match field? 0 9999 [y1, y2, y3, y4], field? 1 12 [m1, m2], field? 1 31 [d1, d2] with
    | some year, some month, some day => day ≤ daysInMonth year month
    | _, _, _ => false
  | _ => false

/-- The fraction of a second to nine places, without zeros at its end. -/
def secondFraction (digits : List Char) : List Char :=
  let kept := (digits.take 9).foldr
    (fun c rest => if rest.isEmpty && c == '0' then [] else c :: rest) []
  if kept.isEmpty then [] else '.' :: kept

/-- The offset of a time in its normal text. -/
def offset? : List Char → Option (List Char)
  | ['Z'] => some ['Z']
  | ['z'] => some ['Z']
  | [sign, h1, h2, ':', m1, m2] =>
    if sign = '+' ∨ sign = '-' then
      match field? 0 23 [h1, h2], field? 0 59 [m1, m2] with
      | some hours, some minutes =>
        some ((if hours = 0 ∧ minutes = 0 then '+' else sign) :: [h1, h2, ':', m1, m2])
      | _, _ => none
    else none
  | _ => none

/-- A time in its normal text, with an offset behind it if that is allowed. -/
def time? (offsetAllowed : Bool) : List Char → Option (List Char)
  | h1 :: h2 :: ':' :: m1 :: m2 :: ':' :: s1 :: s2 :: rest =>
    match field? 0 23 [h1, h2], field? 0 59 [m1, m2], field? 0 60 [s1, s2] with
    | some _, some _, some _ =>
      let whole := [h1, h2, ':', m1, m2, ':', s1, s2]
      let (fraction, behind, bad) : List Char × List Char × Bool :=
        match rest with
        | '.' :: tail =>
          (secondFraction (tail.takeWhile Char.isDigit), tail.dropWhile Char.isDigit,
            (tail.takeWhile Char.isDigit).isEmpty)
        | _ => ([], rest, false)
      if bad then none
      else if behind.isEmpty then some (whole ++ fraction)
      else if offsetAllowed then (offset? behind).map fun zone => whole ++ fraction ++ zone
      else none
    | _, _, _ => none
  | _ => none

/-- A date, a time or both, in normal text. -/
def datetime? (word : List Char) : Option Value :=
  if isDate word then some (.datetime (.ofList word))
  else if isDate (word.take 10) then
    match word.drop 10 with
    | mark :: clock =>
      if mark = 'T' ∨ mark = 't' ∨ mark = ' ' then
        (time? true clock).map fun text =>
          .datetime (.ofList (word.take 10 ++ 'T' :: text))
      else none
    | [] => none
  else (time? false word).map fun text => .datetime (.ofList text)

/-! ## §4. Words. -/

/-- Whether a character ends a word. -/
def endsWord (c : Char) : Bool :=
  [' ', '\t', '\n', '\r', ',', ']', '}', '#'].contains c

/-- Cuts off a word.  A date and a time with one space between them are one
word. -/
def cutWord (cs : List Char) : List Char × List Char :=
  let word := cs.takeWhile fun c => !endsWord c
  let rest := cs.dropWhile fun c => !endsWord c
  match rest with
  | ' ' :: h1 :: h2 :: ':' :: behind =>
    if isDate word && h1.isDigit && h2.isDigit then
      let clock := (h1 :: h2 :: ':' :: behind).takeWhile fun c => !endsWord c
      (word ++ ' ' :: clock, (h1 :: h2 :: ':' :: behind).dropWhile fun c => !endsWord c)
    else (word, rest)
  | _ => (word, rest)

/-- The value that a word stands for. -/
def scalarOf? (word : List Char) : Option Value :=
  if word = ['t', 'r', 'u', 'e'] then some (.boolean true)
  else if word = ['f', 'a', 'l', 's', 'e'] then some (.boolean false)
  else ((datetime? word).or (float? word)).or (integer? word)

end MarkupShorthand.Toml
