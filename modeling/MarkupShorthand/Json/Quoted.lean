/-
  MarkupShorthand.Json.Quoted
  ───────────────────────────
  **A JSON STRING ESCAPES QUOTES, BACKSLASHES AND THE THIRTY-TWO CONTROL
  CHARACTERS, AND NOTHING ELSE.**

  Five controls have a short escape; the others are written `\u00xx` with
  lower-case digits.  Every other character, DEL and the astral ones included,
  stands for itself.
-/

namespace MarkupShorthand.Json

/-- The digit of a number below sixteen, in lower case. -/
def hexDigit (n : Nat) : Char :=
  if n < 10 then Char.ofNat ('0'.toNat + n) else Char.ofNat ('a'.toNat + (n - 10))

/-- One character as it stands in a JSON string. -/
def escape (c : Char) : List Char :=
  if c = '"' then ['\\', '"']
  else if c = '\\' then ['\\', '\\']
  else if c.toNat < 0x20 then
    if c.toNat = 0x08 then ['\\', 'b']
    else if c.toNat = 0x09 then ['\\', 't']
    else if c.toNat = 0x0A then ['\\', 'n']
    else if c.toNat = 0x0C then ['\\', 'f']
    else if c.toNat = 0x0D then ['\\', 'r']
    else ['\\', 'u', '0', '0', hexDigit (c.toNat / 16), hexDigit (c.toNat % 16)]
  else [c]

/-- A text as a JSON string. -/
def quotedChars (cs : List Char) : List Char :=
  '"' :: cs.flatMap escape ++ ['"']

/-- A text as a JSON string. -/
def quoted (text : String) : String :=
  .ofList (quotedChars text.toList)

end MarkupShorthand.Json
