/-
  MarkupShorthand.Proofs.Registry.History
  ───────────────────────────────────────
  **A REGISTRY IS ITS HISTORY, READ FROM THE END.**

  Registering changes two tables at once: the formats by name and the aliases.
  A name may be taken again, an alias may move to another format, and a word may
  be an alias of one format and the name of another.  What the tables say then
  depends on the order of the registrations in only two ways:

      meaning word    the name of the last format that lists the word as an
                      alias, or the word itself
      lastNamed name  the last format with that name

      Keeps              the tables say what the history says
      Keeps.register     one registration keeps it so
      lookup_after_run   so any number of them does
-/
import MarkupShorthand.Format.BuiltIn
import MarkupShorthand.Proofs.Text.ByteOrder

namespace MarkupShorthand.Registry

open Text

/-! ## §1. Histories. -/

/-- The last format of a history that passes a test. -/
def lastThat (test : Format → Bool) (history : List Format) : Option Format :=
  history.reverse.find? test

/-- The last format with a name. -/
def lastNamed (history : List Format) (name : String) : Option Format :=
  lastThat (fun format => format.name == name) history

/-- The last format that lists a word as an alias. -/
def lastWithAlias (history : List Format) (word : String) : Option Format :=
  lastThat (fun format => format.aliases.contains word) history

/-- The name that a word stands for: that of the last format that lists it as an
alias, or the word itself. -/
def meaning (history : List Format) (word : String) : String :=
  match lastWithAlias history word with
  | some format => format.name
  | none => word

theorem lastThat_append_singleton (test : Format → Bool) (history : List Format)
    (format : Format) :
    lastThat test (history ++ [format])
      = if test format then some format else lastThat test history := by
  unfold lastThat
  rw [List.reverse_append, List.reverse_singleton, List.singleton_append, List.find?_cons]
  cases test format <;> rfl

theorem lastThat_eq_none {test : Format → Bool} {history : List Format} :
    lastThat test history = none ↔ ∀ format ∈ history, ¬ test format = true := by
  unfold lastThat
  rw [List.find?_eq_none]
  simp only [List.mem_reverse]

theorem mem_of_lastThat {test : Format → Bool} {history : List Format} {format : Format}
    (h : lastThat test history = some format) : format ∈ history ∧ test format = true :=
  ⟨List.mem_reverse.mp (List.mem_of_find?_eq_some h), List.find?_some h⟩

theorem lastNamed_eq_none {history : List Format} {name : String} :
    lastNamed history name = none ↔ ∀ format ∈ history, ¬ format.name = name := by
  simp only [lastNamed, lastThat_eq_none, beq_iff_eq]

theorem lastWithAlias_eq_none {history : List Format} {word : String} :
    lastWithAlias history word = none ↔ ∀ format ∈ history, word ∉ format.aliases := by
  simp only [lastWithAlias, lastThat_eq_none, List.contains_iff_mem]

/-- A word stands for no format exactly if it was neither a name nor an alias: an
alias brings the name that it stands for along. -/
theorem lastNamed_meaning_eq_none {history : List Format} {word : String} :
    lastNamed history (meaning history word) = none
      ↔ ∀ format ∈ history, ¬ format.name = word ∧ word ∉ format.aliases := by
  unfold meaning
  cases halias : lastWithAlias history word with
  | none =>
    have hnone := lastWithAlias_eq_none.mp halias
    rw [lastNamed_eq_none]
    exact ⟨fun h format hformat => ⟨h format hformat, hnone format hformat⟩,
      fun h format hformat => (h format hformat).1⟩
  | some found =>
    obtain ⟨hmem, hword⟩ := mem_of_lastThat halias
    refine iff_of_false (fun h => lastNamed_eq_none.mp h found hmem rfl) (fun h => ?_)
    exact (h found hmem).2 (List.contains_iff_mem.mp hword)

/-! ## §2. The formats by name. -/

theorem mem_insert {format other : Format} :
    ∀ {formats : List Format}, other ∈ insert format formats → other = format ∨ other ∈ formats
  | [], h => Or.inl (List.mem_singleton.mp h)
  | first :: rest, h => by
    unfold insert at h
    split at h
    · exact (List.mem_cons.mp h).imp id (List.mem_cons_of_mem first)
    split at h
    · exact List.mem_cons.mp h
    · rcases List.mem_cons.mp h with rfl | h
      · exact Or.inr List.mem_cons_self
      · exact (mem_insert h).imp id (List.mem_cons_of_mem first)

/-- The formats stand in the order of their names, none twice. -/
def Ordered (formats : List Format) : Prop :=
  formats.Pairwise fun format later => format.name < later.name

theorem Ordered.insert {format : Format} :
    ∀ {formats : List Format}, Ordered formats → Ordered (insert format formats)
  | [], _ => List.pairwise_singleton _ _
  | first :: rest, h => by
    obtain ⟨hfirst, hrest⟩ := List.pairwise_cons.mp h
    unfold Registry.insert
    split
    · next hsame =>
      -- the format takes the place of the one with its name
      refine List.pairwise_cons.mpr ⟨fun later hlater => ?_, hrest⟩
      rw [hsame]
      exact hfirst later hlater
    split
    · next hless =>
      refine List.pairwise_cons.mpr ⟨fun later hlater => ?_, h⟩
      rcases List.mem_cons.mp hlater with rfl | hlater
      · exact hless
      · exact String.lt_trans hless (hfirst later hlater)
    · next hne hnotless =>
      refine List.pairwise_cons.mpr ⟨fun later hlater => ?_, Ordered.insert hrest⟩
      rcases mem_insert hlater with rfl | hlater
      · have hle := String.not_lt.mp hnotless
        exact String.not_le.mp fun hge => hne (String.le_antisymm hge hle)
      · exact hfirst later hlater

theorem find?_insert (format : Format) (name : String) :
    ∀ {formats : List Format}, Ordered formats →
      (insert format formats).find? (fun other => other.name == name)
        = if format.name == name then some format
          else formats.find? fun other => other.name == name
  | [], _ => by
    unfold insert
    rw [List.find?_singleton]
    rfl
  | first :: rest, h => by
    unfold insert
    split
    · next hsame =>
      rw [List.find?_cons, List.find?_cons, ← hsame]
      cases format.name == name <;> rfl
    split
    · rw [List.find?_cons]
      cases format.name == name <;> rfl
    · next hne _ =>
      rw [List.find?_cons, List.find?_cons, find?_insert format name (List.pairwise_cons.mp h).2]
      cases hfirst : first.name == name with
      | false => rfl
      | true =>
        -- the name that is looked for stands in front, so it is not the new one
        have hother : ¬ (format.name == name) = true := by
          rw [beq_iff_eq] at hfirst ⊢
          exact fun heq => hne (heq.trans hfirst.symm)
        exact (if_neg hother).symm

/-- A format among others in order is the one that is found under its name. -/
theorem Ordered.find?_name {format : Format} :
    ∀ {formats : List Format}, Ordered formats → format ∈ formats →
      formats.find? (fun other => other.name == format.name) = some format
  | first :: rest, h, hmem => by
    obtain ⟨hfirst, hrest⟩ := List.pairwise_cons.mp h
    rw [List.find?_cons]
    rcases List.mem_cons.mp hmem with rfl | hmem
    · rw [beq_self_eq_true]
    · have hne : (first.name == format.name) = false :=
        beq_eq_false_iff_ne.mpr fun heq => String.lt_irrefl _ (heq ▸ hfirst format hmem)
      rw [hne]
      exact Ordered.find?_name hrest hmem

/-! ## §3. The aliases. -/

theorem readEntry_aliases (word name : String) (others : List (String × String)) :
    ∀ aliases : List String,
      readEntry word (aliases.map (fun other => (other, name)) ++ others)
        = if aliases.contains word then some name else readEntry word others
  | [] => rfl
  | first :: aliases => by
    rw [List.map_cons, List.cons_append, readEntry, List.contains_cons,
      readEntry_aliases word name others aliases]
    by_cases h : first = word
    · simp [h]
    · have h' : (word == first) = false := beq_eq_false_iff_ne.mpr fun e => h e.symm
      simp [h, h']

theorem resolve_register (registry : Registry) (format : Format) (word : String) :
    (registry.register format).resolve word
      = if format.aliases.contains word then format.name else registry.resolve word := by
  unfold resolve register
  rw [readEntry_aliases]
  split <;> rfl

/-! ## §4. Runs. -/

/-- The tables of a registry say what its history says. -/
structure Keeps (registry : Registry) (history : List Format) : Prop where
  /-- A word stands for the name of the last format that lists it. -/
  resolve : ∀ word, registry.resolve word = meaning history word
  /-- The last format with a name is kept under it. -/
  find : ∀ name, registry.formats.find? (fun format => format.name == name) = lastNamed history name
  /-- The formats stand in the order of their names. -/
  ordered : Ordered registry.formats

theorem keeps_empty : Keeps .empty [] where
  resolve _ := rfl
  find _ := rfl
  ordered := List.Pairwise.nil

/-- **STEP**: registering a format is adding it to the history. -/
theorem Keeps.register {registry : Registry} {history : List Format} (h : Keeps registry history)
    (format : Format) : Keeps (registry.register format) (history ++ [format]) where
  resolve word := by
    unfold meaning lastWithAlias
    rw [resolve_register, lastThat_append_singleton]
    cases format.aliases.contains word with
    | true => rfl
    | false => exact h.resolve word
  find name := by
    unfold lastNamed
    rw [lastThat_append_singleton]
    exact (find?_insert format name h.ordered).trans (by rw [h.find name]; rfl)
  ordered := h.ordered.insert

/-- **RUN**: registering formats one after the other adds them to the history. -/
theorem Keeps.registerAll {registry : Registry} {history : List Format}
    (h : Keeps registry history) (run : List Format) :
    Keeps (run.foldl Registry.register registry) (history ++ run) := by
  induction run generalizing registry history with
  | nil => rwa [List.append_nil]
  | cons format run ih =>
    have hnext := ih (h.register format)
    rwa [List.append_assoc, List.singleton_append] at hnext

/-! ## §5. What the tables answer. -/

theorem Keeps.get {registry : Registry} {history : List Format} (h : Keeps registry history)
    (word : String) :
    registry.get word =
      match lastNamed history (meaning history word) with
      | some format => .ok format
      | none => .error (.notFound word) := by
  have hfound : registry.find? word = lastNamed history (meaning history word) := by
    unfold find?
    rw [h.resolve, h.find]
  show (match registry.find? word with
    | some format => (.ok format : Except FormatError Format)
    | none => .error (.notFound word)) = _
  rw [hfound]

theorem Keeps.get_eq_error_iff {registry : Registry} {history : List Format}
    (h : Keeps registry history) (word : String) :
    registry.get word = .error (.notFound word)
      ↔ ∀ format ∈ history, ¬ format.name = word ∧ word ∉ format.aliases := by
  rw [← lastNamed_meaning_eq_none, h.get]
  cases lastNamed history (meaning history word) <;> simp

/-- A format that is kept is found under its name. -/
theorem Keeps.lastNamed_of_mem {registry : Registry} {history : List Format}
    (h : Keeps registry history) {format : Format} (hformat : format ∈ registry.formats) :
    lastNamed history format.name = some format := by
  rw [← h.find]
  exact h.ordered.find?_name hformat

theorem Keeps.mem_names {registry : Registry} {history : List Format} (h : Keeps registry history)
    (name : String) : name ∈ registry.names ↔ ∃ format ∈ history, format.name = name := by
  constructor
  · intro hname
    obtain ⟨format, hformat, rfl⟩ := List.mem_map.mp hname
    exact ⟨format, (mem_of_lastThat (h.lastNamed_of_mem hformat)).1, rfl⟩
  · rintro ⟨format, hformat, rfl⟩
    cases hlast : lastNamed history format.name with
    | none => exact absurd rfl (lastNamed_eq_none.mp hlast format hformat)
    | some found =>
      have hfound := h.find format.name
      rw [hlast] at hfound
      have hsame := List.find?_some hfound
      rw [← beq_iff_eq.mp hsame]
      exact List.mem_map_of_mem (List.mem_of_find?_eq_some hfound)

/-- The formats are the last ones with the names that are listed, in order. -/
theorem Keeps.formats {registry : Registry} {history : List Format} (h : Keeps registry history) :
    registry.formats.map some = registry.names.map (lastNamed history) := by
  unfold names
  rw [List.map_map]
  exact List.map_congr_left fun format hformat => (h.lastNamed_of_mem hformat).symm

/-- The names are listed in the order of their bytes, none twice. -/
theorem Keeps.names_ordered {registry : Registry} {history : List Format}
    (h : Keeps registry history) :
    registry.names.Pairwise fun name later => bytes name < bytes later := by
  unfold names
  rw [List.pairwise_map]
  exact h.ordered.imp fun hless => (bytes_lt_iff _ _).mpr hless

/-! ## §6. Any run from either beginning. -/

/-- Where a run of registrations begins. -/
inductive Start where
  /-- Without formats. -/
  | empty
  /-- With the formats that come built in. -/
  | default

namespace Start

/-- The registry at the beginning. -/
def registry : Start → Registry
  | .empty => .empty
  | .default => .default

/-- The formats that were registered before the beginning. -/
def history : Start → List Format
  | .empty => []
  | .default => Format.builtIn

/-- The registry after a run of registrations. -/
def after (start : Start) (run : List Format) : Registry :=
  run.foldl Registry.register start.registry

/-- Every format that was registered by then, the first one first. -/
def registered (start : Start) (run : List Format) : List Format :=
  start.history ++ run

theorem keeps : ∀ start : Start, Keeps start.registry start.history
  | .empty => keeps_empty
  | .default => keeps_empty.registerAll Format.builtIn

theorem keeps_after (start : Start) (run : List Format) :
    Keeps (start.after run) (start.registered run) :=
  start.keeps.registerAll run

end Start

/-- **EVERY LOOKUP AFTER ANY RUN OF REGISTRATIONS**: a word stands for the last
format with the name that the word means, and for none exactly if it was never a
name nor an alias; names are listed once and in order, each with its last
format. -/
theorem lookup_after_run (start : Start) (run : List Format) :
    (∀ word, (start.after run).get word =
      match lastNamed (start.registered run) (meaning (start.registered run) word) with
      | some format => .ok format
      | none => .error (.notFound word))
    ∧ (∀ word, (∃ error, (start.after run).get word = .error error)
      ↔ ∀ format ∈ start.registered run, ¬ format.name = word ∧ word ∉ format.aliases)
    ∧ (start.after run).names.Pairwise (fun name later => bytes name < bytes later)
    ∧ (∀ name, name ∈ (start.after run).names
      ↔ ∃ format ∈ start.registered run, format.name = name)
    ∧ (start.after run).formats.map some
      = (start.after run).names.map (lastNamed (start.registered run)) := by
  have hkeeps := start.keeps_after run
  refine ⟨hkeeps.get, fun word => ?_, hkeeps.names_ordered, hkeeps.mem_names, hkeeps.formats⟩
  rw [← hkeeps.get_eq_error_iff, hkeeps.get]
  cases lastNamed (start.registered run) (meaning (start.registered run) word) <;> simp

end MarkupShorthand.Registry
