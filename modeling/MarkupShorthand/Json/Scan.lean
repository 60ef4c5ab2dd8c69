/-
  MarkupShorthand.Json.Scan
  ─────────────────────────
  **A JSON TEXT IS CUT INTO TOKENS FROM LEFT TO RIGHT, ONE CHARACTER DECIDING
  WHAT BEGINS.**

  Strings (`scanString`) are read for both kinds of reader at once: the text for
  the one that wants it, the end of the string for the one that skips it.
  Numbers (`scanNumber`) are only checked, since no number is ever wanted: what
  counts is whether it is well formed and whether it is too large.

  `tokens` never fails; what cannot be read becomes the last token.
-/
import MarkupShorthand.Decimal.Binary64
import MarkupShorthand.Json.Token

namespace MarkupShorthand.Json

open Decimal

/-! ## §1. Strings. -/

/-- What follows an opening quote. -/
inductive StringScan where
  /-- A closed string, with its text if it has one, and the rest. -/
  | closed (text : Option (List Char)) (rest : List Char)
  /-- A string that cannot be read to its end. -/
  | broken (stop : Stop)
  deriving Inhabited

namespace StringScan

/-- One more character in front. -/
def cons (c : Char) : StringScan → StringScan
  | .closed (some text) rest => .closed (some (c :: text)) rest
  | .closed none rest => .closed none rest
  | .broken stop => .broken stop

/-- The same string for a reader that skips it, a fault for one that wants it. -/
def spoiled (fault : Fault) : StringScan → StringScan
  | .closed _ rest => .closed none rest
  | .broken stop => .broken { stop with wanted := fault }

end StringScan

/-- The character that an escape of one letter stands for. -/
def shortEscape? (letter : Char) : Option Char :=
  match letter with
  | '"' => some '"'
  | '\\' => some '\\'
  | '/' => some '/'
  | 'b' => some (Char.ofNat 0x08)
  | 'f' => some (Char.ofNat 0x0C)
  | 'n' => some '\n'
  | 'r' => some '\r'
  | 't' => some '\t'
  | _ => none

/-- The code unit that four hexadecimal digits stand for. -/
def codeUnit? (a b c d : Char) : Option Nat :=
  naturalOf? 16 [a, b, c, d]

/-- The number of bytes that a text takes up. -/
def byteLength (cs : List Char) : Nat :=
  cs.foldr (fun c length => c.utf8Size + length) 0

/-- What is wrong with a code unit of fewer than four characters: a code unit
takes four bytes, and if the text does not have them it ends too early. -/
def shortUnitFault (rest : List Char) : Fault :=
  if byteLength rest < 4 then .cutOff else .malformed

/-- What is wrong with a high surrogate that this follows, if it is no low one. -/
def loneSurrogateFault : List Char → Fault
  | [] => .cutOff
  | '\\' :: [] => .cutOff
  | '\\' :: 'u' :: rest =>
    match rest with
    | _ :: _ :: _ :: _ :: _ => .malformed
    | _ => shortUnitFault rest
  | _ => .malformed

/-- Whether a code unit is the first half of a pair. -/
def isHighSurrogate (n : Nat) : Bool :=
  0xD800 ≤ n && n ≤ 0xDBFF

/-- Whether a code unit is the second half of a pair. -/
def isLowSurrogate (n : Nat) : Bool :=
  0xDC00 ≤ n && n ≤ 0xDFFF

/-- The character of a surrogate pair. -/
def pairedChar (high low : Nat) : Char :=
  Char.ofNat ((high - 0xD800) * 0x400 + (low - 0xDC00) + 0x10000)

/-- Reads on after an opening quote, to the closing one. -/
def scanString : List Char → StringScan
  | [] => .broken (.both .cutOff)
  | '"' :: rest => .closed (some []) rest
  | '\\' :: [] => .broken (.both .cutOff)
  | '\\' :: 'u' :: a :: b :: c :: d :: rest =>
    match codeUnit? a b c d with
    | none => .broken (.both .malformed)
    | some unit =>
      if isLowSurrogate unit then (scanString rest).spoiled .malformed
      else if isHighSurrogate unit then
        match rest with
        | '\\' :: 'u' :: e :: f :: g :: h :: behind =>
          match (codeUnit? e f g h).filter isLowSurrogate with
          | some low => (scanString behind).cons (pairedChar unit low)
          | none => (scanString ('\\' :: 'u' :: e :: f :: g :: h :: behind)).spoiled .malformed
        | other => (scanString other).spoiled (loneSurrogateFault other)
      else (scanString rest).cons (Char.ofNat unit)
  | '\\' :: 'u' :: rest => .broken (.both (shortUnitFault rest))
  | '\\' :: letter :: rest =>
    match shortEscape? letter with
    | some c => (scanString rest).cons c
    | none => .broken (.both .malformed)
  | c :: rest =>
    if c.toNat < 0x20 then .broken (.both .malformed) else (scanString rest).cons c
termination_by cs => cs.length

theorem length_rest_cons {c : Char} {scan : StringScan} {text : Option (List Char)}
    {rest : List Char} (h : scan.cons c = .closed text rest) :
    ∃ text', scan = .closed text' rest := by
  cases scan with
  | closed t r => cases t <;> simp_all [StringScan.cons]
  | broken _ => simp [StringScan.cons] at h

theorem length_rest_spoiled {fault : Fault} {scan : StringScan} {text : Option (List Char)}
    {rest : List Char} (h : scan.spoiled fault = .closed text rest) :
    ∃ text', scan = .closed text' rest := by
  cases scan with
  | closed t r => simp_all [StringScan.spoiled]
  | broken _ => simp [StringScan.spoiled] at h

theorem length_le_of_scanString {cs : List Char} {text : Option (List Char)}
    {rest : List Char} (h : scanString cs = .closed text rest) : rest.length ≤ cs.length := by
  fun_induction scanString cs generalizing text rest with
  | case1 => simp at h
  | case2 => simp_all
  | case3 => simp at h
  | case4 => simp at h
  | case5 a b c d rest' unit hu hlow ih =>
    obtain ⟨_, h⟩ := length_rest_spoiled h
    have := ih h
    simp only [List.length_cons]; omega
  | case6 a b c d unit hu hlow hhigh e f g hh behind low hl ih =>
    obtain ⟨_, h⟩ := length_rest_cons h
    have := ih h
    simp only [List.length_cons]; omega
  | case7 a b c d unit hu hlow hhigh e f g hh behind hl ih =>
    obtain ⟨_, h⟩ := length_rest_spoiled h
    have := ih h
    simp only [List.length_cons] at this ⊢; omega
  | case8 a b c d unit hu hlow hhigh other hother ih =>
    obtain ⟨_, h⟩ := length_rest_spoiled h
    have := ih h
    simp only [List.length_cons] at this ⊢; omega
  | case9 a b c d rest' unit hu hlow hhigh ih =>
    obtain ⟨_, h⟩ := length_rest_cons h
    have := ih h
    simp only [List.length_cons]; omega
  | case10 => simp at h
  | case11 letter rest' _ _ c hc ih =>
    obtain ⟨_, h⟩ := length_rest_cons h
    have := ih h
    simp only [List.length_cons]; omega
  | case12 => simp at h
  | case13 => simp at h
  | case14 c rest' _ _ _ _ _ _ ih =>
    obtain ⟨_, h⟩ := length_rest_cons h
    have := ih h
    simp only [List.length_cons]; omega

/-! ## §2. Numbers. -/

/-- Digits are added up as long as the sum stays below `2 ^ 64`; the number of
digits that are left over comes with the sum. -/
def boundedNatural : Nat → List Char → Nat × Nat
  | sum, [] => (sum, 0)
  | sum, c :: rest =>
    let next := sum * 10 + (c.toNat - '0'.toNat)
    if next < Nat.pow 2 64 then boundedNatural next rest else (sum, rest.length + 1)

/-- Whether `digits · 10 ^ exponent`, each factor rounded before they are
multiplied, is beyond the finite numbers. -/
def isTooLarge (digits : Nat) (exponent : Int) : Bool :=
  if digits = 0 ∨ exponent < 0 then false
  else if exponent > 308 then true
  else
    match Binary64.nearest digits 1, Binary64.nearest (Nat.pow 10 exponent.toNat) 1 with
    | some factor, some power =>
      -- neither factor is below one, so neither exponent is far below zero
      let shift := factor.exponent + power.exponent
      let product := factor.mantissa * power.mantissa
      let rounded :=
        if 0 ≤ shift then Binary64.nearest (product * Nat.pow 2 shift.toNat) 1
        else Binary64.nearest product (Nat.pow 2 (-shift).toNat)
      rounded.isNone
    | _, _ => true

/-- Whether a number with these digits before the point, behind it and in the
exponent is beyond the finite numbers. -/
def overflows (whole fraction : List Char) (negative : Bool) (power : List Char) : Bool :=
  let (sum, dropped) := boundedNatural 0 whole
  let (digits, unused) := boundedNatural sum fraction
  let scale : Int := (dropped : Int) - ((fraction.length - unused : Nat) : Int)
  let power := (naturalOf? 10 power).getD 0
  if power > 2147483647 then !negative && digits != 0
  else isTooLarge digits (if negative then scale - power else scale + power)

/-- A missing digit: the text ends, or something else stands there. -/
def missingDigit : List Char → Stop
  | [] => ⟨.cutOff, .malformed⟩
  | _ => .both .malformed

/-- Whether a minus sign stands in front, and what is behind the sign if there
is one. -/
def cutSign : List Char → Bool × List Char
  | '-' :: rest => (true, rest)
  | '+' :: rest => (false, rest)
  | cs => (false, cs)

/-- Reads the exponent of a number, and what it makes of the number. -/
def scanExponent (whole fraction cs : List Char) : Except Stop (Bool × List Char) :=
  match cs with
  | [] => .ok (overflows whole fraction false [], [])
  | e :: rest =>
    if e = 'e' ∨ e = 'E' then
      match (cutSign rest).2.takeWhile Char.isDigit with
      | [] => .error (missingDigit (cutSign rest).2)
      | power =>
        .ok (overflows whole fraction (cutSign rest).1 power,
          (cutSign rest).2.dropWhile Char.isDigit)
    else .ok (overflows whole fraction false [], e :: rest)

/-- Reads what is behind the digits before the point. -/
def scanFraction (whole cs : List Char) : Except Stop (Bool × List Char) :=
  match cs with
  | '.' :: rest =>
    match rest.takeWhile Char.isDigit with
    | [] => .error (missingDigit rest)
    | fraction => scanExponent whole fraction (rest.dropWhile Char.isDigit)
  | _ => scanExponent whole [] cs

/-- Reads a number behind its sign: whether it is too large, and the rest. -/
def scanNumber (cs : List Char) : Except Stop (Bool × List Char) :=
  match cs.takeWhile Char.isDigit with
  | [] => .error (missingDigit cs)
  | '0' :: _ :: _ => .error (.both .malformed)
  | whole => scanFraction whole (cs.dropWhile Char.isDigit)

theorem length_dropWhile_isDigit_le (cs : List Char) :
    (cs.dropWhile Char.isDigit).length ≤ cs.length :=
  (List.dropWhile_suffix Char.isDigit).length_le

theorem length_cutSign_le (cs : List Char) : (cutSign cs).2.length ≤ cs.length := by
  unfold cutSign
  split <;> simp

theorem length_le_of_scanExponent {whole fraction cs rest : List Char} {large : Bool}
    (h : scanExponent whole fraction cs = .ok (large, rest)) : rest.length ≤ cs.length := by
  unfold scanExponent at h
  split at h
  · simp_all
  · next e tail =>
    split at h
    · split at h
      · simp at h
      · simp only [Except.ok.injEq, Prod.mk.injEq] at h
        obtain ⟨-, rfl⟩ := h
        have h1 := length_dropWhile_isDigit_le (cutSign tail).2
        have h2 := length_cutSign_le tail
        simp only [List.length_cons]
        omega
    · simp_all

theorem length_le_of_scanFraction {whole cs rest : List Char} {large : Bool}
    (h : scanFraction whole cs = .ok (large, rest)) : rest.length ≤ cs.length := by
  unfold scanFraction at h
  split at h
  · next tail =>
    split at h
    · simp at h
    · have h1 := length_le_of_scanExponent h
      have h2 := length_dropWhile_isDigit_le tail
      simp only [List.length_cons]
      omega
  · exact length_le_of_scanExponent h

theorem length_lt_of_scanNumber {cs rest : List Char} {large : Bool}
    (h : scanNumber cs = .ok (large, rest)) : rest.length < cs.length := by
  unfold scanNumber at h
  have hsplit := congrArg List.length (List.takeWhile_append_dropWhile (p := Char.isDigit) (l := cs))
  rw [List.length_append] at hsplit
  split at h
  · simp at h
  · simp at h
  · next hne _ =>
    have h1 := length_le_of_scanFraction h
    have h2 : 0 < (cs.takeWhile Char.isDigit).length := List.length_pos_iff.mpr hne
    omega

/-! ## §3. Words. -/

/-- What is left when the text begins with the letters; otherwise the fault. -/
def scanWord : List Char → List Char → Except Fault (List Char)
  | [], rest => .ok rest
  | _ :: _, [] => .error .cutOff
  | letter :: letters, c :: rest =>
    if c = letter then scanWord letters rest else .error .malformed

theorem length_le_of_scanWord {letters cs rest : List Char}
    (h : scanWord letters cs = .ok rest) : rest.length ≤ cs.length := by
  induction letters generalizing cs with
  | nil =>
    simp only [scanWord, Except.ok.injEq] at h
    exact h ▸ Nat.le_refl _
  | cons letter letters ih =>
    cases cs with
    | nil => simp [scanWord] at h
    | cons c cs =>
      simp only [scanWord] at h
      split at h
      · exact Nat.le_succ_of_le (ih h)
      · simp at h

/-! ## §4. Tokens. -/

/-- The four blanks of JSON. -/
def isJsonBlank (c : Char) : Bool :=
  c == ' ' || c == '\n' || c == '\t' || c == '\r'

/-- The token that a character is by itself. -/
def markToken? (c : Char) : Option Token :=
  match c with
  | '[' => some .openArray
  | ']' => some .closeArray
  | '{' => some .openObject
  | '}' => some .closeObject
  | ',' => some .comma
  | ':' => some .colon
  | _ => none

/-- The token that begins with a character, and what is left behind it; nothing
is left behind what cannot be read. -/
def nextToken (c : Char) (cs : List Char) : Token × List Char :=
  let word (letters : List Char) (token : Token) : Token × List Char :=
    match scanWord letters cs with
    | .ok rest => (token, rest)
    | .error fault => (.faulty false (.both fault), [])
  let number (body : List Char) : Token × List Char :=
    match scanNumber body with
    | .ok (large, rest) => (.number large, rest)
    | .error stop => (.faulty false stop, [])
  match markToken? c with
  | some token => (token, cs)
  | none =>
    if c = '"' then
      match scanString cs with
      | .closed text rest => (.string (text.map .ofList), rest)
      | .broken stop => (.faulty true stop, [])
    else if c = 'n' then word ['u', 'l', 'l'] .null
    else if c = 't' then word ['r', 'u', 'e'] (.bool true)
    else if c = 'f' then word ['a', 'l', 's', 'e'] (.bool false)
    else if c = '-' then number cs
    else if c.isDigit then number (c :: cs)
    else (.faulty false (.both .malformed), [])

theorem length_nextToken_le (c : Char) (cs : List Char) :
    (nextToken c cs).2.length ≤ cs.length := by
  have hword (letters : List Char) (token : Token) :
      (match scanWord letters cs with
        | .ok rest => (token, rest)
        | .error fault => (.faulty false (.both fault), [])).2.length ≤ cs.length := by
    split
    · next h => exact length_le_of_scanWord h
    · exact Nat.zero_le _
  have hnumber (body : List Char) (hbody : body.length ≤ cs.length + 1) :
      (match scanNumber body with
        | .ok (large, rest) => (Token.number large, rest)
        | .error stop => (.faulty false stop, [])).2.length ≤ cs.length := by
    split
    · next h =>
      have := length_lt_of_scanNumber h
      simp only
      omega
    · exact Nat.zero_le _
  unfold nextToken
  simp only
  split
  · exact Nat.le_refl _
  · split
    · split
      · next h => exact length_le_of_scanString h
      · exact Nat.zero_le _
    · split
      · exact hword _ _
      · split
        · exact hword _ _
        · split
          · exact hword _ _
          · split
            · exact hnumber cs (Nat.le_succ _)
            · split
              · exact hnumber (c :: cs) (Nat.le_refl _)
              · exact Nat.zero_le _

/-- The tokens of a text. -/
def tokens : List Char → List Token
  | [] => []
  | c :: cs =>
    if isJsonBlank c then tokens cs
    else (nextToken c cs).1 :: tokens (nextToken c cs).2
termination_by cs => cs.length
decreasing_by
  · simp
  · exact Nat.lt_succ_of_le (length_nextToken_le c cs)

end MarkupShorthand.Json
