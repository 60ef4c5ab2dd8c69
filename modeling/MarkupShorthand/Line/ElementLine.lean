/-
  MarkupShorthand.Line.ElementLine
  ────────────────────────────────
  **A LINE IS READ SHAPE FIRST, INDENT SECOND; ITS TOKENS MAKE ONE NODE.**

  A line that has the wrong shape and a wrong indent is refused for its shape.
  The marks and the brackets are kept as the runs that stand in the line and
  cut into tokens by `tokens` and `pairs`.

  The attributes of the node (`ElementLine.attributes`) are merged in this
  order: the word begins the class, then come the marks from left to right —
  an id mark sets `id`, a class mark adds to `class` — and then the bracketed
  pairs, each of which overwrites.
-/
import MarkupShorthand.Line.Shape
import MarkupShorthand.Node
import MarkupShorthand.ParseError
import MarkupShorthand.Source
import MarkupShorthand.StyleBlock

namespace MarkupShorthand

open Text

/-! ## §1. Marks. -/

/-- A mark behind the tag or the word. -/
inductive Mark where
  /-- The mark `#name`. -/
  | id (name : String)
  /-- The mark `.name`. -/
  | className (name : String)
  deriving DecidableEq, Inhabited

/-- The mark that a sigil and a name make. -/
def Mark.ofSigil (sigil : Char) (name : List Char) : Mark :=
  if sigil = '#' then .id (.ofList name) else .className (.ofList name)

/-- The marks of a text from left to right: each sigil that a name follows.
What is no mark is passed over. -/
def scanMarks : List Char → List Mark
  | [] => []
  | c :: cs =>
    if isSigil c then
      match cs.takeWhile isNameChar with
      | [] => scanMarks cs
      | name => Mark.ofSigil c name :: scanMarks (cs.dropWhile isNameChar)
    else scanMarks cs
termination_by cs => cs.length
decreasing_by
  all_goals simp only [List.length_cons]
  all_goals first
    | omega
    | exact Nat.lt_succ_of_le (List.dropWhile_suffix isNameChar).length_le

/-! ## §2. Brackets. -/

/-- The contents of the bracketed tokens of a text from left to right: each from
a `[` to the next `]`, if something stands between.  What is no token is passed
over. -/
def scanBrackets : List Char → List (List Char)
  | [] => []
  | c :: cs =>
    let content := cs.takeWhile (· != ']')
    let behind := cs.dropWhile (· != ']')
    if c = '[' ∧ content ≠ [] ∧ behind ≠ [] then content :: scanBrackets behind.tail
    else scanBrackets cs
termination_by cs => cs.length
decreasing_by
  all_goals simp only [List.length_cons, List.length_tail]
  · have h := (List.dropWhile_suffix (· != ']') (l := cs)).length_le
    omega
  · omega

/-- The pair in a bracketed content: what stands before and behind the first
`=`, if both are there. -/
def pair? (content : List Char) : Option (String × String) :=
  match content.takeWhile (· != '='), content.dropWhile (· != '=') with
  | [], _ => none
  | _, [] => none
  | _, [_] => none
  | key, _ :: value => some (.ofList key, .ofList value)

/-! ## §3. Reading a line. -/

/-- Spaces per level of nesting. -/
def indentWidth : Nat := 2

/-- An element line. -/
structure ElementLine where
  /-- Its place in the source. -/
  number : Nat
  /-- The width of its indent. -/
  indent : Nat
  /-- The tag. -/
  tag : String
  /-- The word after the tag. -/
  word : Option String
  /-- The run of marks. -/
  marks : String
  /-- The run of bracketed attributes, blanks included. -/
  brackets : String
  /-- The quoted text. -/
  text : Option String
  /-- The body of the style block. -/
  style : Option String
  deriving DecidableEq, Inhabited

namespace ElementLine

/-- An indent counts if it is an even run of spaces. -/
def isIndent (cs : List Char) : Bool :=
  cs.all (· == ' ') && cs.length % indentWidth == 0

/-- The line with these parts. -/
def ofShape (number : Nat) (shape : Shape) : ElementLine :=
  { number
    indent := shape.indent.length
    tag := .ofList shape.tag
    word := shape.word.map .ofList
    marks := .ofList shape.marks
    brackets := .ofList shape.brackets
    text := shape.text.map .ofList
    style := shape.style.map .ofList }

/-- Reads one line. -/
def read (line : SourceLine) : Except ParseError ElementLine :=
  match Shape.ofChars? line.text.toList with
  | none => .error ⟨.shape, line.number, line.text⟩
  | some shape =>
    if isIndent shape.indent then .ok (ofShape line.number shape)
    else .error ⟨.indent, line.number, line.text⟩

/-- The level that the indent asks for. -/
def depth (line : ElementLine) : Nat :=
  line.indent / indentWidth

/-- The marks from left to right. -/
def tokens (line : ElementLine) : List Mark :=
  scanMarks line.marks.toList

/-- The attribute pairs in the brackets, from left to right. -/
def pairs (line : ElementLine) : List (String × String) :=
  (scanBrackets line.brackets.toList).filterMap pair?

/-! ## §4. The node of a line. -/

/-- What one mark does to the attributes. -/
def addMark (attrs : Attributes) : Mark → Attributes
  | .id name => attrs.set Attributes.idKey name
  | .className name => Attributes.addClass attrs name

/-- The attributes of a line: the word, the marks, the pairs. -/
def attributes (line : ElementLine) : Attributes :=
  let fromWord : Attributes :=
    match line.word with
    | none => ∅
    | some word => Attributes.addClass ∅ word
  (line.tokens.foldl addMark fromWord).setAll line.pairs

/-- The node of a line, without children. -/
def node (line : ElementLine) : Node :=
  { tag := line.tag
    attrs := line.attributes
    styles := line.style.map Styles.ofBlock
    text := line.text }

end ElementLine

end MarkupShorthand
