/-
  MarkupShorthand.Format.BuiltIn
  ──────────────────────────────
  **SIX FORMATS COME BUILT IN: ONE THAT IS PARSED, FIVE THAT ARE WRITTEN.**
-/
import MarkupShorthand.OutputFormat
import MarkupShorthand.Outline
import MarkupShorthand.Registry
import MarkupShorthand.Snapshot
import MarkupShorthand.Yaml.Forest

namespace MarkupShorthand

namespace Format

/-- The shorthand itself. -/
def shorthand : Format where
  name := "shortmark"
  description := "Indentation-based markup shorthand"
  extensions := ["smk", "shortmark"]
  parses := true
  parse source := (Document.parseLogged source).map fun result => result.mapError .parse

/-- A document format: forests are written in its dialect. -/
def document (name description : String) (aliases extensions : List String)
    (dialect : Dialect) : Format where
  name := name
  description := description
  aliases := aliases
  extensions := extensions
  serializes := true
  serialize forest := .ok (dialect.render forest)

/-- Markup. -/
def markup : Format :=
  document "markup" "HTML-like markup with explicit close tags" ["html"] ["html", "htm"] .markup

/-- Component templates. -/
def componentTemplate : Format :=
  document "component-template" "JSX-like component template with className and style objects"
    ["jsx", "tsx"] ["jsx", "tsx"] .component

/-- The snapshot as JSON, a member per line. -/
def jsonDump : Format where
  name := "ast-json"
  description := "Element tree as pretty-printed JSON"
  aliases := ["json"]
  extensions := ["json"]
  serializes := true
  serialize forest := .ok (Snapshot.pretty forest)

/-- The snapshot as YAML. -/
def yamlDump : Format where
  name := "ast-yaml"
  description := "Element tree as YAML"
  aliases := ["yaml"]
  extensions := ["yaml", "yml"]
  serializes := true
  serialize forest := .ok (Yaml.render forest)

/-- The outline. -/
def outline : Format where
  name := "ast-treeviz"
  description := "One line per element, indented by depth"
  aliases := ["treeviz"]
  serializes := true
  serialize forest := .ok (Outline.render forest)

/-- The formats that come built in. -/
def builtIn : List Format :=
  [shorthand, markup, componentTemplate, jsonDump, yamlDump, outline]

end Format

/-- The registry with the formats that come built in. -/
def Registry.default : Registry :=
  Format.builtIn.foldl Registry.register .empty

end MarkupShorthand
