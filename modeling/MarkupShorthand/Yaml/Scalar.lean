/-
  MarkupShorthand.Yaml.Scalar
  ───────────────────────────
  **A TEXT IS WRITTEN IN THE PLAINEST OF FOUR STYLES THAT A READER TAKES FOR
  THE SAME TEXT.**

  A text with a line feed is a literal block.  A text that would be read as
  null, a truth value or a number is put in single quotes, and so is one whose
  first characters, colons, hashes or blanks would be taken for structure; any
  other text stands plain.  Double quotes replace all of these where a character
  cannot be shown or a blank at the end of a line would be lost.

  `styleOf` makes the choice; `scalar` writes the text in it.
-/
import MarkupShorthand.Decimal.Binary64

namespace MarkupShorthand.Yaml

open Decimal

/-! ## §1. Characters. -/

/-- The characters that end a line: line feed, carriage return, next line and
the two separators. -/
def isBreak (c : Char) : Bool :=
  let n := c.toNat
  n == 0x0A || n == 0x0D || n == 0x85 || n == 0x2028 || n == 0x2029

/-- The characters that may stand in a text that is not in double quotes: no
controls but the line feed, and not the byte order mark or the last two of the
basic plane. -/
def isPrintable (c : Char) : Bool :=
  let n := c.toNat
  n == 0x0A || (0x20 ≤ n && n ≤ 0x7E) ||
    (0xA0 ≤ n && n != 0xFEFF && n != 0xFFFE && n != 0xFFFF)

/-- Space, tab, or the end of a line. -/
def isGap (c : Char) : Bool :=
  c == ' ' || c == '\t' || isBreak c

/-- Whether two neighbours, the left one first, pass a test. -/
def anyNeighbours (test : Char → Char → Bool) : List Char → Bool
  | a :: b :: rest => test a b || anyNeighbours test (b :: rest)
  | _ => false

/-! ## §2. Texts that read as something else. -/

/-- A text without one leading plus sign; none if another sign follows it. -/
def unsigned? : List Char → Option (List Char)
  | '+' :: rest =>
    match rest with
    | '+' :: _ => none
    | '-' :: _ => none
    | _ => some rest
  | cs => some cs

/-- Digits behind a base mark: hexadecimal, octal or binary. -/
def based? : List Char → Option Nat
  | '0' :: 'x' :: digits => naturalOf? 16 digits
  | '0' :: 'o' :: digits => naturalOf? 8 digits
  | '0' :: 'b' :: digits => naturalOf? 2 digits
  | _ => none

/-- An integer of at most 128 bits, with a sign or a base mark or neither. -/
def readsAsInteger (cs : List Char) : Bool :=
  match cs with
  | '-' :: rest =>
    match based? rest, naturalOf? 10 rest with
    | some n, _ => n ≤ Nat.pow 2 127
    | none, some n => n ≤ Nat.pow 2 127
    | none, none => false
  | _ =>
    match unsigned? cs with
    | none => false
    | some rest =>
      match based? rest, naturalOf? 10 rest with
      | some n, _ => n < Nat.pow 2 128
      | none, some n => n < Nat.pow 2 128
      | none, none => false

/-- A decimal numeral, perhaps with a sign, whose number is finite. -/
def readsAsFinite (cs : List Char) : Bool :=
  let body :=
    match cs with
    | '-' :: rest => some rest
    | _ => unsigned? cs
  match body.bind Numeral.ofChars? with
  | none => false
  | some numeral => (Binary64.ofNumeral? numeral).isSome

/-- Two or more digits that begin with a zero, perhaps behind a sign. -/
def isZeroLed (cs : List Char) : Bool :=
  let body :=
    match cs with
    | '-' :: rest => rest
    | '+' :: rest => rest
    | _ => cs
  match body with
  | '0' :: d :: rest => (d :: rest).all Char.isDigit
  | _ => false

/-- The spellings of null, of the truth values and of the numbers that are not
finite. -/
def reservedWords : List String :=
  ["", "~", "null", "Null", "NULL", "true", "True", "TRUE", "false", "False", "FALSE",
    ".inf", ".Inf", ".INF", "+.inf", "+.Inf", "+.INF", "-.inf", "-.Inf", "-.INF",
    ".nan", ".NaN", ".NAN"]

/-- Whether the text, standing plain, would not be read as a text. -/
def readsAsOther (cs : List Char) : Bool :=
  reservedWords.any (fun word => word.toList == cs) || readsAsInteger cs ||
    readsAsFinite cs || isZeroLed cs

/-! ## §3. Texts that read as structure. -/

/-- Characters that mean something at the beginning of a plain text. -/
def isIndicator (c : Char) : Bool :=
  ['#', ',', '[', ']', '{', '}', '&', '*', '!', '|', '>', '\'', '"', '%', '@'].contains c ||
    c.toNat == 0x60

/-- Whether the rest of a text begins with a gap or is empty. -/
def gapFollows : List Char → Bool
  | [] => true
  | c :: _ => isGap c

/-- Whether a colon before a gap or a hash after one stands in the text, given
the character to the left. -/
def hasInnerMark : Char → List Char → Bool
  | _, [] => false
  | left, c :: rest =>
    (c == ':' && gapFollows rest) || (c == '#' && isGap left) || hasInnerMark c rest

/-- Whether the text, standing plain, would be taken for structure. -/
def looksStructural : List Char → Bool
  | [] => false
  | c :: rest =>
    isIndicator c || (['?', ':', '-'].contains c && gapFollows rest) ||
      ['-', '-', '-'].isPrefixOf (c :: rest) || ['.', '.', '.'].isPrefixOf (c :: rest) ||
      hasInnerMark c rest

/-! ## §4. The choice of style. -/

/-- The ways to write a text. -/
inductive Style where
  /-- As it is. -/
  | plain
  /-- In single quotes. -/
  | single
  /-- In double quotes, with escapes. -/
  | double
  /-- As an indented block. -/
  | literal
  deriving DecidableEq, Inhabited

/-- Whether only double quotes keep the text. -/
def needsEscapes (cs : List Char) : Bool :=
  cs.any (fun c => !isPrintable c) || anyNeighbours (fun a b => a == ' ' && isBreak b) cs

/-- Whether a space or a break stands at an end of the text. -/
def hasLooseEnd (cs : List Char) : Bool :=
  let loose (c : Char) : Bool := c == ' ' || isBreak c
  cs.head?.any loose || cs.getLast?.any loose

/-- The style in which a text is written. -/
def styleOf (cs : List Char) : Style :=
  if cs.contains '\n' then
    if needsEscapes cs || cs.getLast? == some ' ' then .double else .literal
  else if needsEscapes cs then .double
  else if !readsAsOther cs && !hasLooseEnd cs && !cs.any isBreak && !looksStructural cs then
    .plain
  else if anyNeighbours (fun a b => isBreak a && b == ' ') cs then .double
  else .single

/-! ## §5. Writing. -/

/-- The spaces at the beginning of a line. -/
def spaces (width : Nat) : List Char :=
  List.replicate width ' '

/-- The last digits of a number in base sixteen, in upper case. -/
def upperHex (digits n : Nat) : List Char :=
  (List.range digits).reverse.map fun place =>
    let digit := n / Nat.pow 16 place % 16
    if digit < 10 then Char.ofNat ('0'.toNat + digit) else Char.ofNat ('A'.toNat + (digit - 10))

/-- The characters with an escape of one letter. -/
def shortEscapes : List (Nat × Char) :=
  [(0x00, '0'), (0x07, 'a'), (0x08, 'b'), (0x09, 't'), (0x0A, 'n'), (0x0B, 'v'), (0x0C, 'f'),
    (0x0D, 'r'), (0x1B, 'e'), (0x22, '"'), (0x5C, '\\'), (0x85, 'N'), (0xA0, '_'),
    (0x2028, 'L'), (0x2029, 'P')]

/-- One character as it stands in double quotes. -/
def escape (c : Char) : List Char :=
  if isPrintable c && !isBreak c && c != '"' && c != '\\' then [c]
  else
    match shortEscapes.lookup c.toNat with
    | some letter => ['\\', letter]
    | none =>
      if c.toNat ≤ 0xFF then '\\' :: 'x' :: upperHex 2 c.toNat
      else if c.toNat ≤ 0xFFFF then '\\' :: 'u' :: upperHex 4 c.toNat
      else '\\' :: 'U' :: upperHex 8 c.toNat

/-- The characters of a text of several lines: what follows a break is indented,
breaks themselves are not. -/
def indentLines (width : Nat) (written : Char → List Char) : Bool → List Char → List Char
  | _, [] => []
  | fresh, c :: rest =>
    if isBreak c then c :: indentLines width written true rest
    else (if fresh then spaces width else []) ++ written c ++ indentLines width written false rest

/-- A quote inside single quotes is written twice. -/
def singleQuoted (c : Char) : List Char :=
  if c = '\'' then ['\'', '\''] else [c]

/-- Whether the last character ends a line. -/
def endsLine (cs : List Char) : Bool :=
  cs.getLast?.any isBreak

/-- The mark of a literal block: the indent if it cannot be seen, and what is
done with the breaks at the end. -/
def literalMark (cs : List Char) : List Char :=
  let indent := if cs.head?.any (fun c => c == ' ' || isBreak c) then ['2'] else []
  let atEnd :=
    match cs.reverse with
    | [] => ['-']
    | [c] => if isBreak c then ['+'] else ['-']
    | c :: before :: _ =>
      if !isBreak c then ['-'] else if isBreak before then ['+'] else []
  '|' :: indent ++ atEnd

/-- The text as a scalar whose further lines are indented by a width. -/
def scalar (width : Nat) (cs : List Char) : List Char :=
  match styleOf cs with
  | .plain => cs
  | .single =>
    '\'' :: indentLines width singleQuoted false cs ++
      (if endsLine cs then spaces width else []) ++ ['\'']
  | .double => '"' :: cs.flatMap escape ++ ['"']
  | .literal => literalMark cs ++ '\n' :: indentLines width (fun c => [c]) true cs

end MarkupShorthand.Yaml
