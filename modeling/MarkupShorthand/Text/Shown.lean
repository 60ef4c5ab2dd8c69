/-
  MarkupShorthand.Text.Shown
  ──────────────────────────
  **A TEXT SHOWN IN A MESSAGE STANDS IN DOUBLE QUOTES AND HIDES NOTHING.**

  Quotes, backslashes and the usual controls have an escape of one letter.
  Every other character without a glyph of its own — controls, formatting
  characters, separators, private ones, and marks that combine with the
  character before — is shown by its number.
-/
import MarkupShorthand.Text.Glyphless

namespace MarkupShorthand.Text

/-! ## §1. Characters. -/

/-- One character as it is shown. -/
def shownChar (c : Char) : List Char :=
  if c = '"' then ['\\', '"']
  else if c = '\\' then ['\\', '\\']
  else if c = '\n' then ['\\', 'n']
  else if c = '\t' then ['\\', 't']
  else if c = '\r' then ['\\', 'r']
  else if c.toNat = 0 then ['\\', '0']
  else if hasGlyph c then [c]
  else '\\' :: 'u' :: '{' :: Nat.toDigits 16 c.toNat ++ ['}']

/-! ## §2. Texts. -/

/-- A text as it is shown. -/
def shown (text : String) : String :=
  .ofList ('"' :: text.toList.flatMap shownChar ++ ['"'])

/-- A list of texts as it is shown. -/
def shownList (texts : List String) : String :=
  "[" ++ ", ".intercalate (texts.map shown) ++ "]"

/-- A text that may be absent as it is shown. -/
def shownOption : Option String → String
  | none => "None"
  | some text => "Some(" ++ shown text ++ ")"

end MarkupShorthand.Text
