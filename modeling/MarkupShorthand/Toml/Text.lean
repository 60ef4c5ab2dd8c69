/-
  MarkupShorthand.Toml.Text
  ─────────────────────────
  **FOUR KINDS OF TOML STRINGS: ESCAPES OR NONE, ONE LINE OR SEVERAL.**

  Every cut returns what it read together with the rest of the text, and nothing
  if the text is not TOML.  Line breaks inside a string of several lines count
  as line feeds however they are written.
-/
import MarkupShorthand.Decimal.Numeral

namespace MarkupShorthand.Toml

open Decimal

/-! ## §1. Characters. -/

/-- Space and tab. -/
def isSpace (c : Char) : Bool :=
  c == ' ' || c == '\t'

/-- What may stand in a comment or a string: everything but controls other than
the tab. -/
def isTextChar (c : Char) : Bool :=
  c == '\t' || (0x20 ≤ c.toNat && c.toNat != 0x7F)

/-- Cuts off a line break. -/
def cutNewline : List Char → Option (List Char)
  | '\n' :: rest => some rest
  | '\r' :: '\n' :: rest => some rest
  | _ => none

/-- The character with a number that is given by hexadecimal digits. -/
def scalar? (digits : List Char) : Option Char :=
  match naturalOf? 16 digits with
  | none => none
  | some n => if n.isValidChar then some (Char.ofNat n) else none

/-- Cuts off what follows a backslash, and gives the character it stands for. -/
def cutEscape : List Char → Option (Char × List Char)
  | 'b' :: rest => some (Char.ofNat 0x08, rest)
  | 't' :: rest => some ('\t', rest)
  | 'n' :: rest => some ('\n', rest)
  | 'f' :: rest => some (Char.ofNat 0x0C, rest)
  | 'r' :: rest => some ('\r', rest)
  | '"' :: rest => some ('"', rest)
  | '\\' :: rest => some ('\\', rest)
  | 'u' :: rest =>
    if rest.length < 4 then none else (scalar? (rest.take 4)).map (·, rest.drop 4)
  | 'U' :: rest =>
    if rest.length < 8 then none else (scalar? (rest.take 8)).map (·, rest.drop 8)
  | _ => none

/-! ## §2. Strings of one line. -/

/-- Reads to the closing quote, escapes allowed; the number bounds the steps. -/
def basicBody : Nat → List Char → Option (List Char × List Char)
  | 0, _ => none
  | _, [] => none
  | steps + 1, c :: rest =>
    if c = '"' then some ([], rest)
    else if c = '\\' then
      match cutEscape rest with
      | none => none
      | some (escaped, behind) =>
        (basicBody steps behind).map fun (text, after) => (escaped :: text, after)
    else if isTextChar c then
      (basicBody steps rest).map fun (text, after) => (c :: text, after)
    else none

/-- Reads to the closing quote, everything standing for itself. -/
def literalBody : List Char → Option (List Char × List Char)
  | [] => none
  | c :: rest =>
    if c = '\'' then some ([], rest)
    else if isTextChar c then
      (literalBody rest).map fun (text, after) => (c :: text, after)
    else none

/-! ## §3. Strings of several lines. -/

/-- Drops spaces and line breaks; the number bounds the steps. -/
def dropSpacesAndNewlines : Nat → List Char → List Char
  | 0, cs => cs
  | _, [] => []
  | steps + 1, c :: rest =>
    if isSpace c then dropSpacesAndNewlines steps rest
    else
      match cutNewline (c :: rest) with
      | some behind => dropSpacesAndNewlines steps behind
      | none => c :: rest

/-- Drops what a backslash at the end of a line swallows: spaces, the break, and
all spaces and breaks after it. -/
def dropLineEnd (cs : List Char) : Option (List Char) :=
  (cutNewline (cs.dropWhile isSpace)).map fun behind =>
    dropSpacesAndNewlines behind.length behind

/-- Reads to three closing quotes; one or two more in front of them belong to the
text.  The number bounds the steps. -/
def longBody (quote : Char) (escapes : Bool) : Nat → List Char → Option (List Char × List Char)
  | 0, _ => none
  | _, [] => none
  | steps + 1, c :: rest =>
    if c = quote then
      let run := ((c :: rest).takeWhile (· == quote)).length
      let behind := (c :: rest).drop run
      if run < 3 then
        (longBody quote escapes steps behind).map fun (text, after) =>
          (List.replicate run quote ++ text, after)
      else if run ≤ 5 then some (List.replicate (run - 3) quote, behind)
      else none
    else if escapes && c == '\\' then
      match cutEscape rest with
      | some (escaped, behind) =>
        (longBody quote escapes steps behind).map fun (text, after) => (escaped :: text, after)
      | none => (dropLineEnd rest).bind (longBody quote escapes steps)
    else
      match cutNewline (c :: rest) with
      | some behind =>
        (longBody quote escapes steps behind).map fun (text, after) => ('\n' :: text, after)
      | none =>
        if isTextChar c then
          (longBody quote escapes steps rest).map fun (text, after) => (c :: text, after)
        else none

/-- Reads a string of several lines behind its three quotes; a line break directly
behind them does not count. -/
def longString (quote : Char) (escapes : Bool) (cs : List Char) :
    Option (List Char × List Char) :=
  let body := (cutNewline cs).getD cs
  longBody quote escapes (body.length + 1) body

/-! ## §4. Any string. -/

/-- Cuts off a string of one line. -/
def cutShortString : List Char → Option (String × List Char)
  | '"' :: rest => (basicBody (rest.length + 1) rest).map fun (text, after) => (.ofList text, after)
  | '\'' :: rest => (literalBody rest).map fun (text, after) => (.ofList text, after)
  | _ => none

/-- Cuts off a string of any kind. -/
def cutString (cs : List Char) : Option (String × List Char) :=
  match cs with
  | '"' :: '"' :: '"' :: rest =>
    (longString '"' true rest).map fun (text, after) => (.ofList text, after)
  | '\'' :: '\'' :: '\'' :: rest =>
    (longString '\'' false rest).map fun (text, after) => (.ofList text, after)
  | _ => cutShortString cs

end MarkupShorthand.Toml
