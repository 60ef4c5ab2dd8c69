/-
  MarkupShorthand.OutputFormat
  ────────────────────────────
  **TWO DOCUMENT FORMATS, EACH WITH ONE NAME AND ITS ALIASES.**

  `ofName?` takes a name that is asked for, `ofWord?` one that stands in data;
  both take it exactly.  `render` and `renderOrDescribe` are the way from source
  text to document.
-/
import MarkupShorthand.Dialect.Component
import MarkupShorthand.Dialect.Markup
import MarkupShorthand.Document
import MarkupShorthand.FormatError

namespace MarkupShorthand

/-- A format that documents are rendered to. -/
inductive OutputFormat where
  /-- Markup with explicit closing tags. -/
  | markup
  /-- Component templates. -/
  | componentTemplate
  deriving DecidableEq, Inhabited

namespace OutputFormat

/-- Both formats. -/
def all : List OutputFormat := [.markup, .componentTemplate]

/-- The name of a format. -/
def name : OutputFormat → String
  | .markup => "markup"
  | .componentTemplate => "component-template"

/-- The format that is asked for by this name or alias, letter case included. -/
def ofName? (text : String) : Option OutputFormat :=
  if ["markup", "html"].contains text then some .markup
  else if ["component-template", "jsx", "tsx"].contains text then some .componentTemplate
  else none

/-- The format with this name or alias, or the error that there is none. -/
def ofName (text : String) : Except FormatError OutputFormat :=
  match ofName? text with
  | some format => .ok format
  | none => .error (.notFound text)

/-- The words that stand for a format in data, the one that is written first. -/
def words : OutputFormat → List String
  | .markup => ["markup", "html"]
  | .componentTemplate => ["component-template", "jsx", "tsx"]

/-- The format that a word in data stands for, letter case included. -/
def ofWord? (word : String) : Option OutputFormat :=
  all.find? fun format => format.words.contains word

/-- The dialect of a format. -/
def dialect : OutputFormat → Dialect
  | .markup => .markup
  | .componentTemplate => .component

/-- The forest as a document. -/
def renderForest (format : OutputFormat) (forest : List Node) : String :=
  format.dialect.render forest

/-- The source as a document, or its first bad line. -/
def render (format : OutputFormat) (source : String) : Except ParseError String :=
  (Document.parse source).map format.renderForest

/-- What an editor puts in front of an error that it shows in place of output. -/
def defaultErrorMark : String := "// ERROR: "

/-- The source as a document, or the mark followed by what is wrong. -/
def renderOrDescribe (format : OutputFormat) (errorMark source : String) : String :=
  match format.render source with
  | .ok output => output
  | .error error => errorMark ++ error.message

end OutputFormat

end MarkupShorthand
