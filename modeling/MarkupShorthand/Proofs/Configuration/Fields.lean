/-
  MarkupShorthand.Proofs.Configuration.Fields
  ───────────────────────────────────────────
  **A FILE CHANGES THE FIELDS THAT IT SETS, AN OVERRIDE ITS OWN, AND A
  CONFIGURATION IS READ OFF THE FIELDS.**

  The tree of settings is never looked at as a whole.  What is kept from step to
  step is that both sections are tables and what stands at each field (`Holds`):

      Holds.addToml          a file
      Holds.set              an override
      Holds.ofSettings_iff   reading at the end

  The files are those whose keys at the top are no paths and different, whose
  sections are tables of different keys, and whose fields have single values
  (`Orderly`).
-/
import MarkupShorthand.Configuration.Layer
import MarkupShorthand.Proofs.Setting.Writing

namespace MarkupShorthand.Configuration

open Text Setting

/-! ## §1. Fields. -/

/-- What a layer may set. -/
inductive Field where
  /-- The format of the output. -/
  | format
  /-- Whether a line feed follows the output. -/
  | trailingNewline
  /-- What stands in front of an error. -/
  | errorMark
  deriving DecidableEq

namespace Field

/-- The section of a field. -/
def part : Field → ConfigurationSection
  | .format => .render
  | .trailingNewline => .render
  | .errorMark => .display

/-- The key of a field in its section. -/
def name : Field → String
  | .format => "format"
  | .trailingNewline => "trailing_newline"
  | .errorMark => "error_prefix"

/-- The key of a field for an override. -/
def key (field : Field) : String :=
  field.part.key ++ "." ++ field.name

/-- The place of a field. -/
def place (field : Field) : KeyPath :=
  ⟨field.part.key, [.child field.name]⟩

/-- The value of a field unless something else is said. -/
def usual : Field → Scalar
  | .format => .text "markup"
  | .trailingNewline => .boolean true
  | .errorMark => .text "// ERROR: "

/-- What the entries of a file say about a field. -/
def ofEntries? (field : Field) (entries : List (String × Toml.Value)) : Option Toml.Value :=
  match entryAt field.part.key entries with
  | some (.table inner) => entryAt field.name inner
  | _ => none

/-- What an override sets a field to. -/
def inOverride? (field : Field) (override : String × Scalar) : Option Setting :=
  if override.1 = field.key then some (.scalar override.2 none) else none

theorem ofEntries?_eq_none {field : Field} {entries : List (String × Toml.Value)}
    (h : entryAt field.part.key entries = none) : field.ofEntries? entries = none := by
  unfold ofEntries?
  rw [h]

theorem ofEntries?_of_table {field : Field} {entries inner : List (String × Toml.Value)}
    (h : entryAt field.part.key entries = some (.table inner)) :
    field.ofEntries? entries = entryAt field.name inner := by
  unfold ofEntries?
  rw [h]

theorem lowerCase_part_key (part : ConfigurationSection) : lowerCase part.key = part.key := by
  cases part <;> decide +kernel

theorem lowerCase_name (field : Field) : lowerCase field.name = field.name := by
  cases field <;> decide +kernel

theorem ofText?_key (field : Field) : KeyPath.ofText? field.key = some field.place := by
  cases field <;> decide +kernel

theorem key_inj {field other : Field} : field.key = other.key ↔ field = other := by
  cases field <;> cases other <;> decide +kernel

theorem eq_of_part_name {field other : Field} (hpart : field.part.key = other.part.key)
    (hname : field.name = other.name) : field = other :=
  key_inj.mp (by rw [key, key, hpart, hname])

/-- The override of a field is about this field only. -/
theorem inOverride?_key (field target : Field) (given : Scalar) :
    field.inOverride? (target.key, given)
      = if target = field then some (.scalar given none) else none := by
  unfold inOverride?
  simp only [key_inj]

end Field

/-! ## §2. Settings by their fields. -/

/-- Both sections are tables, with these values of the fields. -/
structure Holds (settings : Setting) (value : Field → Setting) : Prop where
  part : ∀ part : ConfigurationSection,
    ∃ entries origin, settings.get? part.key = some (.table entries origin)
  field : ∀ field : Field,
    (settings.get? field.part.key).bind (·.get? field.name) = some (value field)

theorem standard_holds : Holds standard.toSetting fun field => .scalar field.usual none where
  part part := by
    unfold get?
    rw [Field.lowerCase_part_key]
    cases part <;> exact ⟨_, _, rfl⟩
  field field := by
    unfold get?
    simp only [Field.lowerCase_part_key, Field.lowerCase_name]
    cases field <;> rfl

/-! ## §3. Files. -/

/-- A value that has no parts. -/
def IsSingle : Toml.Value → Prop
  | .array _ => False
  | .table _ => False
  | _ => True

/-- Entries whose keys are no paths and different, whose sections are tables of
different keys, and whose fields have single values. -/
structure Orderly (entries : List (String × Toml.Value)) : Prop where
  plain : ∀ entry ∈ entries, IsPlainKey entry.1
  distinct : DistinctKeys entries
  sections : ∀ (part : ConfigurationSection) (value : Toml.Value),
    entryAt part.key entries = some value → ∃ inner, value = .table inner ∧ DistinctKeys inner
  fields : ∀ (field : Field) (value : Toml.Value),
    field.ofEntries? entries = some value → IsSingle value

theorem written_ofToml_of_isSingle {value : Toml.Value} (h : IsSingle value)
    (held : Option Setting) (origin : Option String) :
    written held (ofToml origin value) = ofToml origin value := by
  cases value with
  | array items => exact h.elim
  | table entries => exact h.elim
  | _ => rfl

/-- What stands at a section after a file is added. -/
theorem get?_addToml_part {entries : List (String × Toml.Value)} (h : Orderly entries)
    (settings : Setting) (path : String) (part : ConfigurationSection) :
    (settings.addToml path entries).get? part.key
      = ((entryAt part.key entries).map fun given =>
          written (settings.get? part.key) (ofToml (some path) given)).or
          (settings.get? part.key) := by
  rw [addToml_eq_addAll path entries settings h.plain,
    get?_addAll _ _ _ (distinctKeys_ofTomlEntries h.distinct), Field.lowerCase_part_key,
    entryAt_ofTomlEntries, Option.map_map]
  rfl

/-- What stands at a field after a table of a file is added to its section. -/
theorem get?_addAll_name {inner : List (String × Toml.Value)} (h : DistinctKeys inner)
    (field : Field) (hsingle : ∀ value, entryAt field.name inner = some value → IsSingle value)
    (held : Setting) (origin : Option String) :
    (held.addAll (ofTomlEntries origin inner)).get? field.name
      = ((entryAt field.name inner).map (ofToml origin)).or (held.get? field.name) := by
  rw [get?_addAll _ _ _ (distinctKeys_ofTomlEntries h), Field.lowerCase_name,
    entryAt_ofTomlEntries]
  cases hvalue : entryAt field.name inner with
  | none => rfl
  | some value =>
    exact congrArg some (written_ofToml_of_isSingle (hsingle value hvalue) _ _)

/-- **A FILE CHANGES THE FIELDS THAT IT SETS.** -/
theorem Holds.addToml {settings : Setting} {value : Field → Setting} (h : Holds settings value)
    {entries : List (String × Toml.Value)} (hentries : Orderly entries) (path : String) :
    Holds (settings.addToml path entries) fun field =>
      ((field.ofEntries? entries).map (ofToml (some path))).getD (value field) := by
  constructor
  · intro part
    obtain ⟨held, origin, hheld⟩ := h.part part
    rw [get?_addToml_part hentries, hheld]
    cases hgiven : entryAt part.key entries with
    | none => exact ⟨held, origin, rfl⟩
    | some given =>
      -- a table that is added to a table leaves a table
      obtain ⟨inner, rfl, -⟩ := hentries.sections part given hgiven
      obtain ⟨grown, hgrown⟩ := isTable_addAll (ofTomlEntries (some path) inner) held origin
      exact ⟨grown, origin, congrArg some hgrown⟩
  · intro field
    have hfield := h.field field
    rw [get?_addToml_part hentries]
    cases hgiven : entryAt field.part.key entries with
    | none =>
      rw [Field.ofEntries?_eq_none hgiven]
      exact hfield
    | some given =>
      obtain ⟨inner, rfl, hinner⟩ := hentries.sections field.part given hgiven
      obtain ⟨held, origin, hheld⟩ := h.part field.part
      -- only single values replace what is held, so the table is read key by key
      have hsingle : ∀ value, entryAt field.name inner = some value → IsSingle value :=
        fun value hvalue =>
          hentries.fields field value ((Field.ofEntries?_of_table hgiven).trans hvalue)
      have hadded := get?_addAll_name hinner field hsingle (.table held origin) (some path)
      rw [hheld, Option.bind_some] at hfield
      rw [hfield, Option.or_some] at hadded
      rw [hheld, Field.ofEntries?_of_table hgiven, ← hadded]
      rfl

/-! ## §4. Overrides. -/

/-- What stands at a key after a field is set. -/
theorem get?_set_place (settings : Setting) (target : Field) (given : Setting) (key : String) :
    (settings.set target.place.steps given).get? key
      = if lowerCase target.part.key = lowerCase key then
          some (((settings.get? target.part.key).getD nothing).write target.name given)
        else settings.get? key := by
  unfold Field.place KeyPath.steps
  rw [Setting.set, Setting.set]
  · exact get?_withEntries_writeEntry _ _ _ _
  · exact fun h => nomatch h

/-- **AN OVERRIDE CHANGES ITS OWN FIELD.** -/
theorem Holds.set {settings : Setting} {value : Field → Setting} (h : Holds settings value)
    (target : Field) (given : Scalar) :
    Holds (settings.set target.place.steps (.scalar given none)) fun field =>
      (field.inOverride? (target.key, given)).getD (value field) := by
  obtain ⟨held, origin, hheld⟩ := h.part target.part
  constructor
  · intro part
    rw [get?_set_place, hheld]
    split
    · obtain ⟨grown, hgrown⟩ := isTable_write held origin target.name (.scalar given none)
      exact ⟨grown, origin, congrArg some hgrown⟩
    · exact h.part part
  · intro field
    have hfield := h.field field
    rw [get?_set_place, hheld, Field.lowerCase_part_key, Field.lowerCase_part_key,
      Field.inOverride?_key]
    by_cases hsame : target = field
    · subst hsame
      rw [if_pos rfl, if_pos rfl, Option.bind_some, Option.getD_some, get?_write_scalar,
        if_pos rfl]
      rfl
    · rw [if_neg hsame]
      split
      · next hpart =>
        -- the section is written to beside the field
        have hname : ¬ lowerCase target.name = lowerCase field.name := by
          rw [Field.lowerCase_name, Field.lowerCase_name]
          exact fun hname => hsame (Field.eq_of_part_name hpart hname)
        rw [← hpart, hheld] at hfield
        rw [Option.bind_some, Option.getD_some, get?_write_scalar, if_neg hname]
        exact hfield
      · exact hfield

/-! ## §5. Reading. -/

/-- A configuration whose parts are what the values of the fields stand for. -/
structure Reads (value : Field → Setting) (configuration : Configuration) : Prop where
  format : readFormat (value .format) = .ok configuration.format
  trailingNewline : readBoolean Field.trailingNewline.place (value .trailingNewline)
    = .ok configuration.trailingNewline
  errorMark : readText Field.errorMark.place (value .errorMark) = .ok configuration.errorMark

theorem Holds.findSection {settings : Setting} {value : Field → Setting}
    (h : Holds settings value) (part : ConfigurationSection) :
    ∃ entries origin, findSection part settings = .ok (.table entries origin)
      ∧ ∀ field : Field, field.part = part →
        (Setting.table entries origin).get? field.name = some (value field) := by
  obtain ⟨entries, origin, hfound⟩ := h.part part
  refine ⟨entries, origin, ?_, ?_⟩
  · unfold Configuration.findSection
    rw [hfound]
  · rintro field rfl
    have hfield := h.field field
    rwa [hfound] at hfield

/-- A field that stands in a table is read by the rules of its kind. -/
theorem readField_of_get? {α : Type} (index : Nat)
    (read : KeyPath → Setting → Except ConfigurationFailure α) {field : Field}
    (hindex : field.part.fields[index]? = some field.name)
    {entries : List (String × Setting)} {origin : Option String} {value : Setting}
    (h : (Setting.table entries origin).get? field.name = some value) :
    readField field.part index read (.table entries origin)
      = (read field.place value).map some := by
  unfold readField field?
  simp only [hindex, Option.bind_some, h, Option.map_some]
  rfl

theorem Holds.readRender {settings : Setting} {value : Field → Setting}
    (h : Holds settings value) :
    readRender settings = do
      let format ← readFormat (value .format)
      let newline ← readBoolean Field.trailingNewline.place (value .trailingNewline)
      return (format, newline) := by
  obtain ⟨entries, origin, hfound, hfields⟩ := h.findSection .render
  have hformat : readField .render 0 (fun _ => readFormat) (.table entries origin)
      = (readFormat (value .format)).map some :=
    readField_of_get? 0 (fun _ => readFormat) rfl (hfields .format rfl)
  have hnewline : readField .render 1 readBoolean (.table entries origin)
      = (readBoolean Field.trailingNewline.place (value .trailingNewline)).map some :=
    readField_of_get? 1 readBoolean rfl (hfields .trailingNewline rfl)
  unfold Configuration.readRender
  simp only [hfound, hformat, hnewline, bind, Except.bind]
  cases readFormat (value .format) with
  | error failure => rfl
  | ok format =>
    cases readBoolean Field.trailingNewline.place (value .trailingNewline) <;> rfl

theorem Holds.readDisplay {settings : Setting} {value : Field → Setting}
    (h : Holds settings value) :
    readDisplay settings = readText Field.errorMark.place (value .errorMark) := by
  obtain ⟨entries, origin, hfound, hfields⟩ := h.findSection .display
  have hmark : readField .display 0 readText (.table entries origin)
      = (readText Field.errorMark.place (value .errorMark)).map some :=
    readField_of_get? 0 readText rfl (hfields .errorMark rfl)
  unfold Configuration.readDisplay
  simp only [hfound, hmark, bind, Except.bind]
  cases readText Field.errorMark.place (value .errorMark) <;> rfl

/-- What succeeds has two parts that succeed. -/
theorem exists_of_bind_eq_ok {ε α β : Type} {first : Except ε α} {next : α → Except ε β}
    {result : β} (h : first >>= next = .ok result) :
    ∃ value, first = .ok value ∧ next value = .ok result := by
  cases first with
  | error failure => cases h
  | ok value => exact ⟨value, rfl, h⟩

/-- **A CONFIGURATION IS READ OFF THE VALUES OF THE FIELDS.** -/
theorem Holds.ofSettings_iff {settings : Setting} {value : Field → Setting}
    (h : Holds settings value) (configuration : Configuration) :
    ofSettings settings = .ok configuration ↔ Reads value configuration := by
  unfold ofSettings
  rw [h.readRender, h.readDisplay]
  constructor
  · -- the first failure would be the result, so there was none
    intro hread
    obtain ⟨_, hrender, hread⟩ := exists_of_bind_eq_ok hread
    obtain ⟨format, hformat, hrender⟩ := exists_of_bind_eq_ok hrender
    obtain ⟨newline, hnewline, hrender⟩ := exists_of_bind_eq_ok hrender
    obtain ⟨mark, hmark, hread⟩ := exists_of_bind_eq_ok hread
    cases hrender
    cases hread
    exact ⟨hformat, hnewline, hmark⟩
  · rintro ⟨hformat, hnewline, hmark⟩
    rw [hformat, hnewline, hmark]
    rfl

end MarkupShorthand.Configuration
