/-
  MarkupShorthand.Proofs.Configuration.Layering
  ─────────────────────────────────────────────
  **EACH FIELD HAS THE VALUE OF THE LAST OVERRIDE OF IT, ELSE OF THE LAST FILE
  THAT SETS IT, ELSE ITS USUAL VALUE, AND NOTHING ELSE MATTERS.**

  `effective` is this value, and the steps of the fields lift to runs:

      Holds.addFiles       files, the later ones over the earlier ones
      Holds.addOverrides   overrides over all files
      load_iff             loading reads the effective values

  Which files have to be there is the only other condition (`RequiredFound`).
-/
import MarkupShorthand.Proofs.Configuration.Fields

namespace MarkupShorthand.Configuration

open Text Setting

/-! ## §1. Values over layers. -/

/-- What the last of several sources that gives anything gives. -/
def latest? {α β : Type} (give : α → Option β) (sources : List α) : Option β :=
  sources.reverse.findSome? give

theorem latest?_cons {α β : Type} (give : α → Option β) (source : α) (sources : List α) :
    latest? give (source :: sources) = (latest? give sources).or (give source) := by
  unfold latest?
  rw [List.reverse_cons, List.findSome?_append, List.findSome?_singleton]

theorem latest?_append {α β : Type} (give : α → Option β) (sources more : List α) :
    latest? give (sources ++ more) = (latest? give more).or (latest? give sources) := by
  unfold latest?
  rw [List.reverse_append, List.findSome?_append]

namespace Field

/-- What a file sets a field to. -/
def inFile? (read : String → FileContent) (field : Field) (file : String × Bool) :
    Option Setting :=
  match findFile read file.1 with
  | some (path, .text content) =>
    ((Toml.read content).bind field.ofEntries?).map (ofToml (some path))
  | _ => none

/-- What a layer sets a field to. -/
def inLayer? (read : String → FileContent) (field : Field) : Layer → Option Setting
  | .file name required => field.inFile? read (name, required)
  | .override key value => field.inOverride? (key, value)

theorem inFile?_of_found {read : String → FileContent} {file : String × Bool}
    {path text : String} {entries : List (String × Toml.Value)}
    (hfound : findFile read file.1 = some (path, .text text))
    (hread : Toml.read text = some entries) (field : Field) :
    field.inFile? read file = (field.ofEntries? entries).map (ofToml (some path)) := by
  unfold inFile?
  simp only [hfound, hread, Option.bind_some]

theorem inFile?_of_missing {read : String → FileContent} {file : String × Bool}
    (h : findFile read file.1 = none) (field : Field) : field.inFile? read file = none := by
  unfold inFile?
  rw [h]

end Field

/-- The value of a field over layers. -/
def effective (read : String → FileContent) (layers : List Layer) (field : Field) : Setting :=
  ((latest? field.inOverride? (Layer.overrides layers)).or
    (latest? (field.inFile? read) (Layer.files layers))).getD (.scalar field.usual none)

/-! ## §2. Runs over files. -/

/-- The files among layers that have to be there are there. -/
def RequiredFound (read : String → FileContent) (files : List (String × Bool)) : Prop :=
  ∀ file ∈ files, file.2 = true → (findFile read file.1).isSome = true

/-- What a file holds, if it is found, is a text of orderly entries. -/
def IsOrderlyFile (read : String → FileContent) (name : String) : Prop :=
  ∀ path content, findFile read name = some (path, content) →
    ∃ text entries, content = .text text ∧ Toml.read text = some entries ∧ Orderly entries

/-- A missing file is an error if it has to be there, and adds nothing otherwise. -/
theorem addFile_of_missing {read : String → FileContent} {name : String}
    (h : findFile read name = none) (settings : Setting) (required : Bool) :
    addFile read settings name required
      = if required then .error (.noFile name) else .ok settings := by
  unfold addFile
  rw [h]

/-- A file that is orderly is added, unless it is missing and has to be there. -/
theorem Holds.addFile {read : String → FileContent} {settings : Setting}
    {value : Field → Setting} (h : Holds settings value) {file : String × Bool}
    (hfile : IsOrderlyFile read file.1)
    (hrequired : file.2 = true → (findFile read file.1).isSome = true) :
    ∃ added, addFile read settings file.1 file.2 = .ok added ∧
      Holds added fun field => (field.inFile? read file).getD (value field) := by
  cases hfound : findFile read file.1 with
  | none =>
    have hoptional : ¬ file.2 = true := fun htrue => by
      have hsome := hrequired htrue
      rw [hfound] at hsome
      exact Bool.noConfusion hsome
    refine ⟨settings, ?_, ?_⟩
    · rw [addFile_of_missing hfound, if_neg hoptional]
    · simp only [Field.inFile?_of_missing hfound]
      exact h
  | some found =>
    obtain ⟨path, content⟩ := found
    obtain ⟨text, entries, rfl, hread, hentries⟩ := hfile path content hfound
    refine ⟨settings.addToml path entries, ?_, ?_⟩
    · unfold Configuration.addFile
      simp only [hfound, hread]
    · simp only [Field.inFile?_of_found hfound hread]
      exact h.addToml hentries path

/-- **A RUN OVER FILES** gives every field the value of the last file that sets
it. -/
theorem Holds.addFiles {read : String → FileContent} :
    ∀ (files : List (String × Bool)) {settings : Setting} {value : Field → Setting},
      Holds settings value → (∀ file ∈ files, IsOrderlyFile read file.1) →
      RequiredFound read files →
      ∃ added, addFiles read settings files = .ok added ∧
        Holds added fun field => (latest? (field.inFile? read) files).getD (value field)
  | [], settings, _, h, _, _ => ⟨settings, rfl, h⟩
  | file :: files, settings, value, h, hfiles, hrequired => by
    -- what the first file leaves is what the others start from
    obtain ⟨first, hfirst, hholds⟩ :=
      h.addFile (hfiles file List.mem_cons_self) (hrequired file List.mem_cons_self)
    obtain ⟨added, hadded, hall⟩ := Holds.addFiles files hholds
      (fun other hother => hfiles other (List.mem_cons_of_mem file hother))
      (fun other hother => hrequired other (List.mem_cons_of_mem file hother))
    refine ⟨added, ?_, ?_⟩
    · rw [Configuration.addFiles, hfirst]
      exact hadded
    · simpa only [latest?_cons, Option.getD_or] using hall

/-- Files are only added if those that have to be there are. -/
theorem requiredFound_of_addFiles {read : String → FileContent} :
    ∀ {files : List (String × Bool)} {settings added : Setting},
      addFiles read settings files = .ok added → RequiredFound read files
  | [], _, _, _ => fun _ hfile => nomatch hfile
  | (name, required) :: files, settings, added, h => by
    rw [addFiles] at h
    cases hfirst : addFile read settings name required with
    | error failure =>
      rw [hfirst] at h
      cases h
    | ok first =>
      rw [hfirst] at h
      intro file hfile hrequired
      rcases List.mem_cons.mp hfile with rfl | hfile
      · cases hfound : findFile read name with
        | some found => rfl
        | none =>
          rw [addFile_of_missing hfound, if_pos hrequired] at hfirst
          cases hfirst
      · exact requiredFound_of_addFiles h file hfile hrequired

/-! ## §3. Runs over overrides. -/

/-- **A RUN OVER OVERRIDES** gives every field the value of the last override of
it. -/
theorem Holds.addOverrides :
    ∀ (overrides : List (String × Scalar)) {settings : Setting} {value : Field → Setting},
      Holds settings value →
      (∀ override ∈ overrides, ∃ field : Field, override.1 = field.key) →
      ∃ paths, overridePaths overrides = .ok paths ∧
        Holds (addOverrides settings paths) fun field =>
          (latest? field.inOverride? overrides).getD (value field)
  | [], _, _, h, _ => ⟨[], rfl, h⟩
  | (key, given) :: overrides, settings, value, h, hkeys => by
    obtain ⟨target, rfl⟩ : ∃ field : Field, key = field.key := hkeys (key, given) List.mem_cons_self
    obtain ⟨paths, hpaths, hholds⟩ := Holds.addOverrides overrides (h.set target given)
      fun other hother => hkeys other (List.mem_cons_of_mem _ hother)
    refine ⟨(target.place, given) :: paths, ?_, ?_⟩
    · rw [overridePaths, Field.ofText?_key, hpaths]
      rfl
    · simp only [latest?_cons, Option.getD_or]
      exact hholds

/-! ## §4. Loading. -/

/-- Layers whose overrides, which are single values, are of fields and whose files are
orderly. -/
structure Regular (read : String → FileContent) (layers : List Layer) : Prop where
  overrides : ∀ override ∈ Layer.overrides layers, ∃ field : Field, override.1 = field.key
  files : ∀ file ∈ Layer.files layers, IsOrderlyFile read file.1

/-- **LOADING SUCCEEDS ON THE VALUES THAT SHOW.** -/
theorem load_iff {read : String → FileContent} {layers : List Layer} (h : Regular read layers)
    (configuration : Configuration) :
    load read layers = .ok configuration
      ↔ RequiredFound read (Layer.files layers) ∧ Reads (effective read layers) configuration := by
  by_cases hfound : RequiredFound read (Layer.files layers)
  · obtain ⟨added, hadded, hfiles⟩ := standard_holds.addFiles _ h.files hfound
    obtain ⟨paths, hpaths, hholds⟩ := hfiles.addOverrides _ h.overrides
    have hload : load read layers = ofSettings (addOverrides added paths) := by
      unfold load
      rw [hpaths]
      simp only [hadded]
    -- overrides before files before usual values: the effective ones
    simp only [← Option.getD_or] at hholds
    rw [hload, and_iff_right hfound]
    exact hholds.ofSettings_iff configuration
  · refine ⟨fun hload => ?_, fun hboth => absurd hboth.1 hfound⟩
    unfold load at hload
    split at hload
    · cases hload
    · split at hload
      · cases hload
      · next hadded => exact absurd (requiredFound_of_addFiles hadded) hfound

theorem files_append (layers more : List Layer) :
    Layer.files (layers ++ more) = Layer.files layers ++ Layer.files more := by
  induction layers with
  | nil => rfl
  | cons layer layers ih =>
    cases layer with
    | file name required => exact congrArg ((name, required) :: ·) ih
    | override key value => exact ih

theorem overrides_append (layers more : List Layer) :
    Layer.overrides (layers ++ more) = Layer.overrides layers ++ Layer.overrides more := by
  induction layers with
  | nil => rfl
  | cons layer layers ih =>
    cases layer with
    | file name required => exact ih
    | override key value => exact congrArg ((key, value) :: ·) ih

/-- A layer that does not set a field leaves its value alone, wherever the layer
lies. -/
theorem effective_insert {read : String → FileContent} {field : Field} {layer : Layer}
    (h : field.inLayer? read layer = none) (layers more : List Layer) :
    effective read (layers ++ layer :: more) field = effective read (layers ++ more) field := by
  unfold effective
  rw [files_append, files_append, overrides_append, overrides_append]
  cases layer with
  | file name required =>
    have hfile : field.inFile? read (name, required) = none := h
    simp only [Layer.files, Layer.overrides, latest?_append, latest?_cons, hfile, Option.or_none]
  | override key value =>
    have hoverride : field.inOverride? (key, value) = none := h
    simp only [Layer.files, Layer.overrides, latest?_append, latest?_cons, hoverride,
      Option.or_none]

/-- A file that may be missing and is adds nothing. -/
theorem addFiles_missing {read : String → FileContent} {name : String}
    (h : findFile read name = none) (files more : List (String × Bool)) (settings : Setting) :
    addFiles read settings (files ++ (name, false) :: more)
      = addFiles read settings (files ++ more) := by
  induction files generalizing settings with
  | nil =>
    have hnothing : addFile read settings name false = .ok settings :=
      addFile_of_missing h settings false
    rw [List.nil_append, List.nil_append, addFiles, hnothing]
  | cons file files ih =>
    rw [List.cons_append, List.cons_append, addFiles, addFiles]
    cases addFile read settings file.1 file.2 with
    | error failure => rfl
    | ok added => exact ih added

/-- **LAYERING.**  Loading regular layers succeeds exactly if the files that have to
be there are there and each field has a value of its kind, where the value is that
of the last override of the field, else of the last file that sets it, else the
usual one; the configuration consists of these values.  Only the order of the files
among themselves and of the overrides among themselves matters; a file that may be
missing and is might as well not be named; and a layer changes the fields that it
sets and no other. -/
theorem load_layered (read : String → FileContent) :
    (∀ layers, Regular read layers → ∀ configuration,
        load read layers = .ok configuration
          ↔ RequiredFound read (Layer.files layers)
            ∧ Reads (effective read layers) configuration)
      ∧ (∀ layers other, Layer.files layers = Layer.files other →
          Layer.overrides layers = Layer.overrides other → load read layers = load read other)
      ∧ (∀ layers name more, findFile read name = none →
          load read (layers ++ .file name false :: more) = load read (layers ++ more))
      ∧ ∀ layers layer more (field : Field), field.inLayer? read layer = none →
          effective read (layers ++ layer :: more) field
            = effective read (layers ++ more) field := by
  refine ⟨fun layers h => load_iff h, ?_, ?_, fun layers layer more field h =>
    effective_insert h layers more⟩
  · intro layers other hfiles hoverrides
    unfold load
    rw [hfiles, hoverrides]
  · intro layers name more hmissing
    have hfiles := addFiles_missing hmissing (Layer.files layers) (Layer.files more)
      standard.toSetting
    unfold load
    rw [files_append, files_append, overrides_append, overrides_append]
    simp only [Layer.files, Layer.overrides, hfiles]

/-- A file of one table of single values is orderly. -/
theorem orderly_section {key : String} {inner : List (String × Toml.Value)}
    (hkey : IsPlainKey key) (hdistinct : DistinctKeys inner)
    (hsingle : ∀ entry ∈ inner, IsSingle entry.2) : Orderly [(key, .table inner)] where
  plain entry hentry := by
    rw [List.mem_singleton.mp hentry]
    exact hkey
  distinct := List.pairwise_singleton _ _
  sections part value hvalue := by
    obtain ⟨entry, hentry, -, rfl⟩ := mem_of_entryAt hvalue
    rw [List.mem_singleton.mp hentry]
    exact ⟨inner, rfl, hdistinct⟩
  fields field value hvalue := by
    cases hpart : entryAt field.part.key [(key, Toml.Value.table inner)] with
    | none =>
      rw [Field.ofEntries?_eq_none hpart] at hvalue
      cases hvalue
    | some given =>
      obtain ⟨entry, hentry, -, rfl⟩ := mem_of_entryAt hpart
      rw [List.mem_singleton.mp hentry] at hpart
      rw [Field.ofEntries?_of_table hpart] at hvalue
      obtain ⟨entry, hentry, -, rfl⟩ := mem_of_entryAt hvalue
      exact hsingle entry hentry

/-- What stands under the name itself is found first. -/
theorem findFile_of_text {read : String → FileContent} {name text : String}
    (h : read name = .text text) : findFile read name = some (Path.plain name, .text text) := by
  unfold findFile candidates
  rw [List.findSome?_cons, h]
  rfl

/-- A file gives a format in other letters than the field; its word that is no truth
value lies below an override and does no harm. -/
theorem load_layered_over_misfit :
    let text := "[Render]\nFormat = \"JSX\"\ntrailing_newline = \"maybe\"\n"
    let read (path : String) : FileContent := if path = "team" then .text text else .missing
    let override := Layer.override "render.trailing_newline" (.boolean false)
    let team := Layer.file "team" true
    let gone := Layer.file "gone" false
    Regular read [override, team, gone]
      ∧ load read [override, team, gone] = .ok ⟨.componentTemplate, false, "// ERROR: "⟩
      ∧ load read [team, override, gone] = load read [override, team, gone]
      ∧ load read [override, team, gone] = load read [override, team]
      ∧ effective read [override, team, gone] .errorMark
          = effective read [override, gone] .errorMark := by
  intro text read override team gone
  let inner : List (String × Toml.Value) :=
    [("Format", .string "JSX"), ("trailing_newline", .string "maybe")]
  have hread : Toml.read text = some [("Render", .table inner)] := by decide +kernel
  obtain ⟨place, hteam⟩ : ∃ place, findFile read "team" = some (place, .text text) :=
    ⟨_, findFile_of_text rfl⟩
  have hgone : findFile read "gone" = none := by
    have hother : ∀ name : String, read (name ++ extension) = .missing := by
      intro name
      refine if_neg fun hname => ?_
      -- the names end in different letters
      have hlast := congrArg (fun text : String => text.toList.getLast?) hname
      simp [extension] at hlast
    unfold findFile candidates
    simp only [List.findSome?_cons, hother]
    rfl
  have hformat : Field.format.ofEntries? [("Render", .table inner)] = some (.string "JSX") := by
    decide +kernel
  have hmark : Field.errorMark.ofEntries? [("Render", .table inner)] = none := by decide +kernel
  have hinTeam : ∀ field : Field, field.inFile? read ("team", true)
      = (field.ofEntries? [("Render", .table inner)]).map (ofToml (some place)) :=
    Field.inFile?_of_found hteam hread
  have hinGone : ∀ field : Field, field.inFile? read ("gone", false) = none :=
    Field.inFile?_of_missing hgone
  have hfiles : ∀ file ∈ Layer.files [override, team, gone],
      file = ("team", true) ∨ file = ("gone", false) := by
    simp [Layer.files, override, team, gone]
  have hregular : Regular read [override, team, gone] := by
    constructor
    · intro given hgiven
      rw [List.mem_singleton.mp hgiven]
      exact ⟨.trailingNewline, by decide +kernel⟩
    · intro file hfile path content hfound
      obtain rfl | rfl := hfiles file hfile
      · cases hteam.symm.trans hfound
        exact ⟨text, _, rfl, hread,
          orderly_section (by decide +kernel) (by decide +kernel) (by simp [inner, IsSingle])⟩
      · cases hgone.symm.trans hfound
  have hrequired : RequiredFound read (Layer.files [override, team, gone]) := by
    intro file hfile hrequired
    obtain rfl | rfl := hfiles file hfile
    · rw [hteam]
      rfl
    · cases hrequired
  have hvalue : ∀ field : Field, effective read [override, team, gone] field
      = ((if Field.trailingNewline = field then some (Setting.scalar (.boolean false) none)
            else none).or
          ((field.ofEntries? [("Render", .table inner)]).map (ofToml (some place)))).getD
          (.scalar field.usual none) := by
    intro field
    unfold effective
    rw [← Field.inOverride?_key]
    simp only [override, team, gone, Layer.files, Layer.overrides, latest?_cons, hinGone, hinTeam]
    rfl
  have hreads : Reads (effective read [override, team, gone])
      ⟨.componentTemplate, false, "// ERROR: "⟩ := by
    have hword : formatOfName "JSX" = .ok .componentTemplate := by
      have hsmall : OutputFormat.ofWord? (lowerCase "JSX") = some .componentTemplate := by
        decide +kernel
      unfold formatOfName
      rw [hsmall]
    constructor
    · rw [hvalue, hformat]
      exact hword
    · rw [hvalue]
      rfl
    · rw [hvalue, hmark]
      rfl
  refine ⟨hregular, ?_, ?_, ?_, ?_⟩
  · exact ((load_layered read).1 _ hregular _).mpr ⟨hrequired, hreads⟩
  · exact (load_layered read).2.1 _ _ rfl rfl
  · exact (load_layered read).2.2.1 [override, team] "gone" [] hgone
  · refine (load_layered read).2.2.2 [override] team [gone] .errorMark ?_
    exact (hinTeam .errorMark).trans (congrArg _ hmark)

end MarkupShorthand.Configuration
