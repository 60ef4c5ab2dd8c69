/-
  MarkupShorthand.Line.Shape
  ──────────────────────────
  **AN ELEMENT LINE FALLS INTO ITS PARTS IN ONE WAY ONLY.**

      indent <tag> word #id.class [key=value] = "text" :{ property: value; }

  Everything after the tag is optional, the marks stand directly after the word
  (or the tag), and blanks separate the other parts where there are any.  No
  choice has to be taken back: what may follow a part never begins with a
  character that would have extended it, so each part is cut off greedily and
  the line is refused when something is left over.

  The cuts return the part together with the rest of the line;
  `Shape.ofChars?` composes them.
-/
import MarkupShorthand.Text.Blank

namespace MarkupShorthand

open Text

/-! ## §1. Name characters. -/

/-- Tags, words and the names in marks are made of these: ASCII letters and
digits, `_` and `-`. -/
def isNameChar (c : Char) : Bool :=
  c.isAlphanum || c == '_' || c == '-'

/-- Whether a mark begins here: `#` for an id, `.` for a class. -/
def isSigil (c : Char) : Bool :=
  c == '#' || c == '.'

/-! ## §2. The parts of a line. -/

/-- The parts of an element line, as they stand in it. -/
structure Shape where
  /-- The blanks in front. -/
  indent : List Char
  /-- The name between `<` and `>`. -/
  tag : List Char
  /-- The word after the tag. -/
  word : Option (List Char)
  /-- The run of `#id` and `.class` marks, possibly empty. -/
  marks : List Char
  /-- The run of bracketed attributes with the blanks in front of each. -/
  brackets : List Char
  /-- What stands between the quotes. -/
  text : Option (List Char)
  /-- What stands between the braces of the style block. -/
  style : Option (List Char)
  deriving DecidableEq, Inhabited

namespace Shape

/-- Cuts off `<tag>`: a letter, then name characters. -/
def cutTag : List Char → Option (List Char × List Char)
  | '<' :: initial :: rest =>
    if initial.isAlpha then
      match rest.dropWhile isNameChar with
      | '>' :: after => some (initial :: rest.takeWhile isNameChar, after)
      | _ => none
    else none
  | _ => none

/-- Cuts off blanks and the word behind them, if both are there. -/
def cutWord : List Char → Option (List Char) × List Char
  | [] => (none, [])
  | c :: cs =>
    if isBlank c then
      match (trimStart cs).takeWhile isNameChar with
      | [] => (none, c :: cs)
      | word => (some word, (trimStart cs).dropWhile isNameChar)
    else (none, c :: cs)

/-- Cuts off the longest run of marks, each a sigil and a name. -/
def cutMarks : List Char → List Char × List Char
  | [] => ([], [])
  | c :: cs =>
    if isSigil c then
      match cs.takeWhile isNameChar with
      | [] => ([], c :: cs)
      | name =>
        let more := cutMarks (cs.dropWhile isNameChar)
        (c :: name ++ more.1, more.2)
    else ([], c :: cs)
termination_by cs => cs.length
decreasing_by
  simp only [List.length_cons]
  exact Nat.lt_succ_of_le (List.dropWhile_suffix isNameChar).length_le

/-- Cuts off one bracketed attribute: blanks, `[`, a content that is not empty,
`]`.  The content ends at the first `]`. -/
def cutBracket (cs : List Char) : Option (List Char × List Char) :=
  match trimStart cs with
  | '[' :: inner =>
    match inner.takeWhile (· != ']'), inner.dropWhile (· != ']') with
    | [], _ => none
    | _, [] => none
    | content, close :: after =>
      some (cs.takeWhile isBlank ++ '[' :: content ++ [close], after)
  | _ => none

theorem length_lt_of_cutBracket {cs bracket after : List Char}
    (h : cutBracket cs = some (bracket, after)) : after.length < cs.length := by
  unfold cutBracket at h
  split at h
  · next inner hinner =>
    split at h
    · cases h
    · cases h
    · next content close rest hdrop _ =>
      simp only [Option.some.injEq, Prod.mk.injEq] at h
      have h1 := (List.dropWhile_suffix (· != ']') (l := inner)).length_le
      have h2 := (List.dropWhile_suffix isBlank (l := cs)).length_le
      rw [hdrop] at h1
      rw [show cs.dropWhile isBlank = '[' :: inner from hinner] at h2
      simp only [List.length_cons] at h1 h2
      obtain ⟨-, rfl⟩ := h
      omega
  · cases h

/-- Cuts off the longest run of bracketed attributes. -/
def cutBrackets (cs : List Char) : List Char × List Char :=
  match _h : cutBracket cs with
  | none => ([], cs)
  | some (bracket, after) =>
    let more := cutBrackets after
    (bracket ++ more.1, more.2)
termination_by cs.length
decreasing_by exact length_lt_of_cutBracket _h

/-- Cuts off `= "text"`, blanks allowed in front and around the `=`. -/
def cutText (cs : List Char) : Option (List Char) × List Char :=
  match trimStart cs with
  | '=' :: behind =>
    match trimStart behind with
    | '"' :: inner =>
      match inner.dropWhile (· != '"') with
      | _ :: after => (some (inner.takeWhile (· != '"')), after)
      | [] => (none, cs)
    | _ => (none, cs)
  | _ => (none, cs)

/-- Cuts off a style block: blanks, `:` and an opening brace, a body that is not
empty, a closing brace.  The body ends at the first closing brace. -/
def cutStyle (cs : List Char) : Option (List Char) × List Char :=
  match trimStart cs with
  | ':' :: '{' :: inner =>
    match inner.takeWhile (· != '}'), inner.dropWhile (· != '}') with
    | [], _ => (none, cs)
    | _, [] => (none, cs)
    | body, _ :: after => (some body, after)
  | _ => (none, cs)

/-- The parts of a line, unless something in it does not fit. -/
def ofChars? (line : List Char) : Option Shape :=
  match cutTag (trimStart line) with
  | none => none
  | some (tag, afterTag) =>
    let (word, afterWord) := cutWord afterTag
    let (marks, afterMarks) := cutMarks afterWord
    let (brackets, afterBrackets) := cutBrackets afterMarks
    let (text, afterText) := cutText afterBrackets
    let (style, afterStyle) := cutStyle afterText
    if afterStyle.all isBlank then
      some ⟨line.takeWhile isBlank, tag, word, marks, brackets, text, style⟩
    else none

end Shape

end MarkupShorthand
