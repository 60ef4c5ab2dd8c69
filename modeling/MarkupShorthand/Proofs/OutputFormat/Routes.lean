/-
  MarkupShorthand.Proofs.OutputFormat.Routes
  ──────────────────────────────────────────
  **ALL ROUTES TO A DOCUMENT AGREE.**

  A document format is named in three places, each with a list of its own: where
  it is asked for, in data, and among the formats of the registry.  A document is
  made in three ways:

      render                the source is parsed and the forest rendered
      convert               the registry looks both formats up, checks what they
                            offer, and wraps what goes wrong
      convertSource         the command adds a configuration, an exit code and
                            two streams

      mem_words_iff_…       the three lists name the same formats
      convert_document      converting is rendering, with the error wrapped
      run_of_asks           and so is the command, with the error told
-/
import Mathlib.Control.Monad.Basic
import MarkupShorthand.Command.Outcome
import MarkupShorthand.OutputFormat.Reading
import MarkupShorthand.Proofs.Json.Assembly
import MarkupShorthand.Proofs.Registry.History

namespace MarkupShorthand

open Command

/-! ## §1. Names. -/

namespace OutputFormat

theorem mem_words_iff_ofWord? {word : String} {format : OutputFormat} :
    word ∈ format.words ↔ ofWord? word = some format := by
  constructor
  · intro h
    cases format <;> simp only [words, List.mem_cons, List.not_mem_nil, or_false] at h
    · rcases h with rfl | rfl <;> rfl
    · rcases h with rfl | rfl | rfl <;> rfl
  · intro h
    have hfound := List.find?_some (p := fun f : OutputFormat => f.words.contains word) h
    exact List.contains_iff_mem.mp hfound

theorem mem_words_iff_ofName {text : String} {format : OutputFormat} :
    text ∈ format.words ↔ ofName text = .ok format := by
  constructor
  · intro h
    cases format <;> simp only [words, List.mem_cons, List.not_mem_nil, or_false] at h
    · rcases h with rfl | rfl <;> rfl
    · rcases h with rfl | rfl | rfl <;> rfl
  · intro h
    unfold ofName ofName? at h
    split at h
    · next hsome =>
      cases h
      split at hsome
      · next hmem => cases hsome; exact List.contains_iff_mem.mp hmem
      split at hsome
      · next hmem => cases hsome; exact List.contains_iff_mem.mp hmem
      · cases hsome
    · cases h

theorem ofName_name (format : OutputFormat) : ofName format.name = .ok format := by
  cases format <;> rfl

/-- A quoted word is read as the format that the word stands for. -/
theorem read_quoted_eq_ok_iff {word : String} {format : OutputFormat} :
    OutputFormat.read (Json.quoted word) = .ok format ↔ ofWord? word = some format := by
  have hread : Json.read (Json.quoted word) = ⟨.string (some word), false⟩ :=
    Json.Value.read_compact (.string word)
  have hvalue : ofReading (.string (some word)) = wantName word := rfl
  unfold OutputFormat.read Json.Text.want
  rw [hread, hvalue, wantName]
  cases ofWord? word <;> simp

/-- The format of the registry that documents of a kind are written with. -/
def registered : OutputFormat → Format
  | .markup => .markup
  | .componentTemplate => .componentTemplate

theorem name_registered (format : OutputFormat) : format.registered.name = format.name := by
  cases format <;> rfl

theorem words_eq (format : OutputFormat) :
    format.words = format.registered.name :: format.registered.aliases := by
  cases format <;> rfl

/-- Of the formats that come built in, one has the name of a document format. -/
theorem eq_registered {format : OutputFormat} {found : Format} (hfound : found ∈ Format.builtIn)
    (hname : found.name = format.name) : found = format.registered := by
  simp only [Format.builtIn, List.mem_cons, List.not_mem_nil, or_false] at hfound
  rcases hfound with rfl | rfl | rfl | rfl | rfl | rfl
  · cases format <;> exact absurd hname (by decide)
  · cases format
    · rfl
    · exact absurd hname (by decide)
  · cases format
    · exact absurd hname (by decide)
    · rfl
  · cases format <;> exact absurd hname (by decide)
  · cases format <;> exact absurd hname (by decide)
  · cases format <;> exact absurd hname (by decide)

end OutputFormat

namespace Registry

theorem keeps_default : Keeps .default Format.builtIn := Start.default.keeps

/-- What a word means is a name that it was an alias for, or itself. -/
theorem meaning_cases (history : List Format) (word : String) :
    (∃ format ∈ history, word ∈ format.aliases ∧ format.name = meaning history word)
    ∨ meaning history word = word := by
  unfold meaning
  cases halias : lastWithAlias history word with
  | none => exact Or.inr rfl
  | some format =>
    obtain ⟨hmem, hword⟩ := mem_of_lastThat halias
    exact Or.inl ⟨format, hmem, List.contains_iff_mem.mp hword, rfl⟩

theorem get_default_of_mem_words {word : String} {format : OutputFormat}
    (h : word ∈ format.words) : Registry.default.get word = .ok format.registered := by
  rw [keeps_default.get]
  cases format <;> simp only [OutputFormat.words, List.mem_cons, List.not_mem_nil, or_false] at h
  · rcases h with rfl | rfl <;> rfl
  · rcases h with rfl | rfl | rfl <;> rfl

theorem mem_words_of_get_default {word : String} {format : OutputFormat} {found : Format}
    (h : Registry.default.get word = .ok found) (hname : found.name = format.name) :
    word ∈ format.words := by
  rw [keeps_default.get] at h
  cases hlast : lastNamed Format.builtIn (meaning Format.builtIn word) with
  | none => rw [hlast] at h; cases h
  | some last =>
    rw [hlast] at h
    cases h
    have hmeaning := beq_iff_eq.mp (mem_of_lastThat hlast).2
    rw [OutputFormat.words_eq]
    rcases meaning_cases Format.builtIn word with ⟨other, hother, hword, hsame⟩ | hself
    · have hothername := hsame.trans (hmeaning.symm.trans hname)
      rw [OutputFormat.eq_registered hother hothername] at hword
      exact List.mem_cons_of_mem _ hword
    · -- the word is the name itself
      rw [← hself, ← hmeaning, hname, ← format.name_registered]
      exact List.mem_cons_self

/-! ## §2. Conversions. -/

/-- What is parsed as shorthand is read as a document is. -/
theorem parse_shorthand (source : String) :
    Registry.default.parse source "shortmark" = Format.shorthand.parse source := by
  have hsource : Registry.default.get "shortmark" = .ok Format.shorthand := by
    rw [keeps_default.get]
    rfl
  unfold Registry.parse
  rw [hsource]
  rfl

theorem value_parse_shorthand (source : String) :
    (Registry.default.parse source "shortmark").value
      = (Document.parse source).mapError .parse := by
  rw [parse_shorthand]
  rfl

/-- **CONVERTING IS RENDERING**, with the error wrapped. -/
theorem convert_document {word : String} {format : OutputFormat} (h : word ∈ format.words)
    (source : String) :
    (Registry.default.convert source "shortmark" word).value
      = (format.render source).mapError .parse := by
  have htarget := get_default_of_mem_words h
  have hoffers : format.registered.serializes = true := by
    cases format <;> rfl
  have hparse := value_parse_shorthand source
  have hwritten : ∀ forest,
      format.registered.serialize forest = .ok (format.renderForest forest) := by
    intro forest
    cases format <;> rfl
  unfold convert OutputFormat.render
  simp only [htarget, hoffers, if_true, hparse, hwritten]
  cases Document.parse source <;> rfl

end Registry

/-! ## §3. The command line. -/

namespace Command

/-- The arguments ask for a source to be converted to the format that a word stands
for: the word is given with the arguments, or else by the configuration that they
load. -/
def Asks (surroundings : Surroundings) (arguments : List String) (configuration : Configuration)
    (source word : String) (errorText : Bool) : Prop :=
  ∃ given path target, Arguments.read arguments = .ok given
    ∧ given.request = .convert path target errorText
    ∧ loadConfiguration surroundings given.config = .ok configuration
    ∧ target.getD configuration.format.name = word
    ∧ readSource surroundings path = .ok source

/-- What a configuration puts behind an output. -/
def lineEnd (configuration : Configuration) : String :=
  if configuration.trailingNewline then "\n" else ""

theorem output_emitted (configuration : Configuration) (output : String) :
    (emitted configuration output).output = output ++ lineEnd configuration := by
  unfold emitted lineEnd
  cases configuration.trailingNewline
  · exact (String.append_empty).symm
  · rfl

/-- **A COMMAND LINE IS ONE CONVERSION**, with diagnostics in front of its own. -/
theorem run_of_asks {surroundings : Surroundings} {arguments : List String}
    {configuration : Configuration} {source word : String} {errorText : Bool}
    (h : Asks surroundings arguments configuration source word errorText) :
    ∃ log, run surroundings arguments
      = (conversionOutcome configuration errorText
          (Registry.default.convert source "shortmark" word).value).after log := by
  obtain ⟨given, path, target, hread, hrequest, hload, rfl, hsource⟩ := h
  refine ⟨(logFilter surroundings given.verbose).warnings
    ++ (logFilter surroundings given.verbose).lines
      (Registry.default.convert source "shortmark"
        (target.getD configuration.format.name)).records, ?_⟩
  unfold run
  rw [hread]
  simp only [Arguments.outcome, hload, hrequest, Request.outcome, convertSource, hsource,
    Outcome.after, String.append_assoc]
  rfl

end Command

/-- The standard configuration is one that can be loaded: it passes its own checks. -/
theorem Configuration.ofSettings_standard :
    ofSettings standard.toSetting = .ok standard := by
  decide +kernel

namespace OutputFormat

/-- **ALL ROUTES TO A DOCUMENT AGREE.**  A word is a name of a format exactly if it
is one in data, and exactly if the registry finds the format of that name.
Converting to it gives the rendered document or the parse error, wrapped.  The
command prints the document with the line end that is configured; a parse error
is printed in its place with `--error-text`, and ends the command without. -/
theorem routes_agree (word : String) (format : OutputFormat) :
    (ofName word = .ok format ↔ OutputFormat.read (Json.quoted word) = .ok format)
    ∧ (ofName word = .ok format
      ↔ ∃ found, Registry.default.get word = .ok found ∧ found.name = format.name)
    ∧ (ofName word = .ok format → Registry.default.get word = Registry.default.get format.name
      ∧ ∀ source,
        (∀ output, (Registry.default.convert source "shortmark" word).value = .ok output
          ↔ format.render source = .ok output)
        ∧ (∀ error, (Registry.default.convert source "shortmark" word).value = .error (.parse error)
          ↔ format.render source = .error error)
        ∧ ∀ surroundings arguments configuration,
          (Asks surroundings arguments configuration source word true →
            (run surroundings arguments).code = 0
            ∧ (run surroundings arguments).output
              = format.renderOrDescribe configuration.errorMark source ++ lineEnd configuration)
          ∧ (Asks surroundings arguments configuration source word false →
            match format.render source with
            | .ok output =>
              (run surroundings arguments).code = 0
              ∧ (run surroundings arguments).output = output ++ lineEnd configuration
            | .error error =>
              (run surroundings arguments).code = 1 ∧ (run surroundings arguments).output = ""
              ∧ ∃ log, (run surroundings arguments).diagnostics
                = log ++ ("Error: " ++ error.message ++ "\n"))) := by
  refine ⟨?_, ?_, fun h => ⟨?_, fun source => ?_⟩⟩
  · rw [← mem_words_iff_ofName, read_quoted_eq_ok_iff, mem_words_iff_ofWord?]
  · rw [← mem_words_iff_ofName]
    exact ⟨fun hword => ⟨_, Registry.get_default_of_mem_words hword, format.name_registered⟩,
      fun ⟨_, hfound, hname⟩ => Registry.mem_words_of_get_default hfound hname⟩
  · rw [Registry.get_default_of_mem_words (mem_words_iff_ofName.mpr h),
      Registry.get_default_of_mem_words (mem_words_iff_ofName.mpr (ofName_name format))]
  have hconvert := Registry.convert_document (mem_words_iff_ofName.mpr h) source
  refine ⟨fun output => ?_, fun error => ?_, fun surroundings arguments configuration =>
    ⟨fun hasks => ?_, fun hasks => ?_⟩⟩
  · rw [hconvert]
    cases format.render source <;> simp [Except.mapError]
  · rw [hconvert]
    cases format.render source <;> simp [Except.mapError]
  · obtain ⟨log, hrun⟩ := run_of_asks hasks
    rw [hrun, hconvert, renderOrDescribe]
    cases format.render source with
    | ok output => exact ⟨rfl, output_emitted configuration output⟩
    | error error => exact ⟨rfl, output_emitted configuration _⟩
  · obtain ⟨log, hrun⟩ := run_of_asks hasks
    rw [hrun, hconvert]
    cases format.render source with
    | ok output => exact ⟨rfl, output_emitted configuration output⟩
    | error error => exact ⟨rfl, rfl, log, rfl⟩

/-- A bad second line is told in place of the document, or ends the command. -/
theorem routes_agree_on_bad_indent :
    let surroundings : Surroundings := ⟨fun _ => .missing, .text "<p>\n <b>", none⟩
    let told := "Invalid indentation (use 2 spaces per level) on line 2: \" <b>\""
    ofName "jsx" = .ok .componentTemplate
    ∧ Asks surroundings ["convert", "--to=jsx", "--error-text"] .standard "<p>\n <b>" "jsx" true
    ∧ Asks surroundings ["convert", "--to=jsx"] .standard "<p>\n <b>" "jsx" false
    ∧ (run surroundings ["convert", "--to=jsx", "--error-text"]).output
      = "// ERROR: " ++ told ++ "\n"
    ∧ (run surroundings ["convert", "--to=jsx"]).code = 1
    ∧ ∃ log, (run surroundings ["convert", "--to=jsx"]).diagnostics
      = log ++ ("Error: " ++ told ++ "\n") := by
  intro surroundings told
  have hname : ofName "jsx" = .ok .componentTemplate := rfl
  have hload : loadConfiguration surroundings none = .ok .standard :=
    Configuration.ofSettings_standard
  have hshown : Asks surroundings ["convert", "--to=jsx", "--error-text"] .standard "<p>\n <b>"
      "jsx" true := ⟨_, none, some "jsx", rfl, rfl, hload, rfl, rfl⟩
  have hfailing : Asks surroundings ["convert", "--to=jsx"] .standard "<p>\n <b>" "jsx" false :=
    ⟨_, none, some "jsx", rfl, rfl, hload, rfl, rfl⟩
  have hrender : componentTemplate.render "<p>\n <b>" = .error ⟨.indent, 2, " <b>"⟩ := by
    decide +kernel
  have hprinted : componentTemplate.renderOrDescribe Configuration.standard.errorMark "<p>\n <b>"
      ++ lineEnd .standard = "// ERROR: " ++ told ++ "\n" := by
    decide +kernel
  obtain ⟨-, -, hroutes⟩ := routes_agree "jsx" .componentTemplate
  obtain ⟨-, hsource⟩ := hroutes hname
  obtain ⟨-, -, hrun⟩ := hsource "<p>\n <b>"
  obtain ⟨-, houtput⟩ := (hrun surroundings _ _).1 hshown
  have hfailed := (hrun surroundings _ _).2 hfailing
  rw [hrender] at hfailed
  obtain ⟨hcode, -, hlog⟩ := hfailed
  exact ⟨hname, hshown, hfailing, houtput.trans hprinted, hcode, hlog⟩

end OutputFormat

end MarkupShorthand
