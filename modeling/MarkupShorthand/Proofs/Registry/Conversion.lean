/-
  MarkupShorthand.Proofs.Registry.Conversion
  ──────────────────────────────────────────
  **CONVERTING IS PARSING, THEN SERIALIZING, ONCE THE TARGET IS KNOWN TO
  SERIALIZE; AND A METHOD THAT IS NOT OFFERED IS NEVER RUN.**

  A conversion looks its target up and asks what it offers by itself, before
  anything is parsed, and serializing asks the same again.  Both refuse the same
  words with the same error, which spells the word as it was given.

  That a method is never run is said of two registries.  Their formats offer the
  same and do the same where they offer it, and may differ in everything else:

      Alike              two registries with such formats
      Alike.register     one registration on each side keeps them so
      Alike.convert      nothing that is asked of them tells them apart
-/
import Mathlib.Data.List.Forall2
import MarkupShorthand.Proofs.Registry.History

namespace MarkupShorthand

/-! ## §1. Words that cannot be written with. -/

namespace Registry

/-- A word stands for no format, or for one that does not offer to serialize. -/
def Refuses (registry : Registry) (word : String) : Prop :=
  ∀ format, registry.get word = .ok format → format.serializes = false

/-- What is answered to a word that cannot be written with. -/
def refusal (registry : Registry) (word : String) : FormatError :=
  if registry.has word then .unsupported word .serialization else .notFound word

theorem get_cases (registry : Registry) (word : String) :
    (∃ format, registry.get word = .ok format ∧ registry.has word = true)
      ∨ (registry.get word = .error (.notFound word) ∧ registry.has word = false) := by
  unfold get has
  cases registry.find? word with
  | none => exact Or.inr ⟨rfl, rfl⟩
  | some format => exact Or.inl ⟨format, rfl, rfl⟩

theorem serialize_of_refuses {registry : Registry} {word : String} (h : registry.Refuses word)
    (forest : List Node) : registry.serialize forest word = .error (registry.refusal word) := by
  unfold serialize refusal
  rcases registry.get_cases word with ⟨format, hget, hhas⟩ | ⟨hget, hhas⟩
  · rw [hget, hhas]
    simp only [h format hget, Bool.false_eq_true, if_false, if_true]
  · rw [hget, hhas]
    rfl

/-- Nothing is parsed for a target that is refused, and nothing is reported. -/
theorem convert_of_refuses {registry : Registry} {word : String} (h : registry.Refuses word)
    (source fromWord : String) :
    registry.convert source fromWord word = ⟨.error (registry.refusal word), []⟩ := by
  unfold convert refusal
  rcases registry.get_cases word with ⟨format, hget, hhas⟩ | ⟨hget, hhas⟩
  · rw [hget, hhas]
    simp only [h format hget, Bool.false_eq_true, if_false, if_true]
  · rw [hget, hhas]
    rfl

/-- A word that is not refused stands for a format that offers to serialize. -/
theorem exists_of_not_refuses {registry : Registry} {word : String} (h : ¬ registry.Refuses word) :
    ∃ format, registry.get word = .ok format ∧ format.serializes = true := by
  simpa only [Refuses, not_forall, Bool.not_eq_false, exists_prop] using h

/-- **CONVERTING IS PARSING, THEN SERIALIZING**, for a target that is not refused. -/
theorem convert_of_not_refuses {registry : Registry} {word : String}
    (h : ¬ registry.Refuses word) (source fromWord : String) :
    (registry.convert source fromWord word).value
      = (registry.parse source fromWord).value.bind fun forest =>
          registry.serialize forest word := by
  obtain ⟨format, hget, hserializes⟩ := exists_of_not_refuses h
  have hserialize : ∀ forest, registry.serialize forest word = format.serialize forest := by
    intro forest
    unfold serialize
    rw [hget]
    exact if_pos hserializes
  unfold convert
  rw [hget]
  simp only [hserializes, if_true, hserialize]
  cases (registry.parse source fromWord).value <;> rfl

end Registry

/-! ## §2. Formats that offer the same. -/

/-- Two formats are found under the same words, offer the same, and do the same
where they offer it.  What they would do where they do not offer it is left open. -/
structure Format.SameOffer (format other : Format) : Prop where
  /-- They have one name. -/
  name : other.name = format.name
  /-- They list the same aliases. -/
  aliases : other.aliases = format.aliases
  /-- Both offer to parse, or neither does. -/
  parses : other.parses = format.parses
  /-- Both offer to serialize, or neither does. -/
  serializes : other.serializes = format.serializes
  /-- They parse alike, if they offer to. -/
  parse : format.parses = true → other.parse = format.parse
  /-- They serialize alike, if they offer to. -/
  serialize : format.serializes = true → other.serialize = format.serialize

theorem Format.SameOffer.refl (format : Format) : format.SameOffer format :=
  ⟨rfl, rfl, rfl, rfl, fun _ => rfl, fun _ => rfl⟩

namespace Registry

/-- Two registries hold formats that offer the same, under the same words. -/
structure Alike (registry other : Registry) : Prop where
  /-- Format by format, they offer the same. -/
  formats : List.Forall₂ Format.SameOffer registry.formats other.formats
  /-- The aliases are the same. -/
  aliases : other.aliases = registry.aliases

theorem Alike.refl (registry : Registry) : registry.Alike registry :=
  ⟨List.forall₂_same.mpr fun format _ => Format.SameOffer.refl format, rfl⟩

theorem insert_alike {format other : Format} (h : format.SameOffer other)
    {formats others : List Format} (hformats : List.Forall₂ Format.SameOffer formats others) :
    List.Forall₂ Format.SameOffer (insert format formats) (insert other others) := by
  induction hformats with
  | nil => exact .cons h .nil
  | cons hfirst hrest ih =>
    -- the place is found by the names, which are the same on both sides
    unfold insert
    rw [h.name, hfirst.name]
    split
    · exact .cons h hrest
    split
    · exact .cons h (.cons hfirst hrest)
    · exact .cons hfirst ih

/-- **STEP**: registering formats that offer the same. -/
theorem Alike.register {registry registry' : Registry} (h : registry.Alike registry')
    {format format' : Format} (hformat : format.SameOffer format') :
    (registry.register format).Alike (registry'.register format') where
  formats := insert_alike hformat h.formats
  aliases := by
    unfold Registry.register
    rw [hformat.name, hformat.aliases, h.aliases]

/-- **RUN**: any number of such registrations. -/
theorem Alike.registerAll {run run' : List Format} (hrun : List.Forall₂ Format.SameOffer run run') :
    ∀ {registry registry' : Registry}, registry.Alike registry' →
      (run.foldl Registry.register registry).Alike (run'.foldl Registry.register registry') := by
  induction hrun with
  | nil => exact fun h => h
  | cons hformat _ ih => exact fun h => ih (h.register hformat)

/-! ## §3. What is asked of them. -/

theorem find?_alike (name : String) {formats others : List Format}
    (hformats : List.Forall₂ Format.SameOffer formats others) :
    (∃ format format', formats.find? (fun format => format.name == name) = some format
        ∧ others.find? (fun format => format.name == name) = some format'
        ∧ format.SameOffer format')
      ∨ (formats.find? (fun format => format.name == name) = none
        ∧ others.find? (fun format => format.name == name) = none) := by
  induction hformats with
  | nil => exact Or.inr ⟨rfl, rfl⟩
  | @cons first first' rest rest' hfirst hrest ih =>
    rw [List.find?_cons, List.find?_cons, hfirst.name]
    cases first.name == name with
    | true => exact Or.inl ⟨first, first', rfl, rfl, hfirst⟩
    | false => exact ih

/-- A word stands for formats that offer the same, or for none on either side. -/
theorem Alike.get {registry other : Registry} (h : registry.Alike other) (word : String) :
    (∃ format format', registry.get word = .ok format ∧ other.get word = .ok format'
        ∧ format.SameOffer format')
      ∨ (registry.get word = .error (.notFound word)
        ∧ other.get word = .error (.notFound word)) := by
  have hresolve : other.resolve word = registry.resolve word := by
    unfold resolve
    rw [h.aliases]
  unfold Registry.get find?
  rw [hresolve]
  rcases find?_alike (registry.resolve word) h.formats with
    ⟨format, format', hfound, hfound', hformat⟩ | ⟨hfound, hfound'⟩
  · rw [hfound, hfound']
    exact Or.inl ⟨format, format', rfl, rfl, hformat⟩
  · rw [hfound, hfound']
    exact Or.inr ⟨rfl, rfl⟩

theorem Alike.parse {registry other : Registry} (h : registry.Alike other)
    (source word : String) : other.parse source word = registry.parse source word := by
  unfold Registry.parse
  rcases h.get word with ⟨format, format', hget, hget', hformat⟩ | ⟨hget, hget'⟩
  · rw [hget, hget']
    simp only [hformat.parses]
    split
    · next hparses => rw [hformat.parse hparses]
    · rfl
  · rw [hget, hget']

theorem Alike.serialize {registry other : Registry} (h : registry.Alike other)
    (forest : List Node) (word : String) :
    other.serialize forest word = registry.serialize forest word := by
  unfold Registry.serialize
  rcases h.get word with ⟨format, format', hget, hget', hformat⟩ | ⟨hget, hget'⟩
  · rw [hget, hget']
    simp only [hformat.serializes]
    split
    · next hserializes => rw [hformat.serialize hserializes]
    · rfl
  · rw [hget, hget']

theorem Alike.convert {registry other : Registry} (h : registry.Alike other)
    (source fromWord toWord : String) :
    other.convert source fromWord toWord = registry.convert source fromWord toWord := by
  unfold Registry.convert
  rcases h.get toWord with ⟨format, format', hget, hget', hformat⟩ | ⟨hget, hget'⟩
  · rw [hget, hget']
    simp only [hformat.serializes, hformat.name, h.parse]
    split
    · next hserializes => rw [hformat.serialize hserializes]
    · rfl
  · rw [hget, hget']

/-- **CONVERTING IS PARSING, THEN SERIALIZING, THE TARGET CHECKED FIRST.**  After any
run of registrations, a target that stands for no format, or for one that does not
offer to serialize, is refused by a conversion as it is by serializing, whatever the
source, its format and the forest are; nothing is parsed then, and nothing is
reported.  For any other target, converting is parsing and then serializing what
was parsed, errors included.

A method that a format does not offer is never run: exchanged for any other in any of
the registered formats, it changes neither what is answered nor what is reported. -/
theorem convert_parses_then_serializes (start : Start) (run : List Format) :
    (∀ toWord, (start.after run).Refuses toWord →
        (∀ forest, (start.after run).serialize forest toWord
          = .error ((start.after run).refusal toWord))
        ∧ ∀ source fromWord, (start.after run).convert source fromWord toWord
          = ⟨.error ((start.after run).refusal toWord), []⟩)
      ∧ (∀ toWord, ¬ (start.after run).Refuses toWord →
        ∀ source fromWord, ((start.after run).convert source fromWord toWord).value
          = ((start.after run).parse source fromWord).value.bind fun forest =>
              (start.after run).serialize forest toWord)
      ∧ ∀ run', List.Forall₂ Format.SameOffer run run' →
        (∀ source word, (start.after run').parse source word = (start.after run).parse source word)
        ∧ (∀ forest word,
          (start.after run').serialize forest word = (start.after run).serialize forest word)
        ∧ ∀ source fromWord toWord, (start.after run').convert source fromWord toWord
          = (start.after run).convert source fromWord toWord := by
  refine ⟨fun toWord h => ⟨serialize_of_refuses h, convert_of_refuses h⟩,
    fun toWord h => convert_of_not_refuses h, fun run' hrun => ?_⟩
  have halike : (start.after run).Alike (start.after run') :=
    Alike.registerAll hrun (Alike.refl start.registry)
  exact ⟨halike.parse, halike.serialize, halike.convert⟩

/-- One format that parses although it does not offer to, next to one that does not
parse, and a format that claims both directions and leaves them out. -/
theorem convert_parses_then_serializes_around_claims :
    let counting : Format :=
      { name := "count", serializes := true, serialize := fun forest => .ok (toString forest.length) }
    let eager : Format := { counting with parse := fun source => ⟨.ok [{ tag := source }], []⟩ }
    let claiming : Format :=
      { name := "claim", aliases := ["c"], parses := true, serializes := true }
    let registry := Start.empty.after [counting, claiming]
    let other := Start.empty.after [eager, claiming]
    List.Forall₂ Format.SameOffer [counting, claiming] [eager, claiming]
      ∧ registry.Refuses "none" ∧ ¬ registry.Refuses "c"
      ∧ registry.convert "a" "c" "none" = ⟨.error (.notFound "none"), []⟩
      ∧ (registry.convert "a" "count" "c").value = .error (.unsupported "count" .parsing)
      ∧ other.convert "a" "count" "count" = registry.convert "a" "count" "count" := by
  intro counting eager claiming registry other
  have hrun : List.Forall₂ Format.SameOffer [counting, claiming] [eager, claiming] :=
    .cons ⟨rfl, rfl, rfl, rfl, fun h => absurd h (by decide), fun _ => rfl⟩
      (.cons (.refl claiming) .nil)
  have hnone : registry.get "none" = .error (.notFound "none") :=
    (Start.empty.keeps_after [counting, claiming]).get "none"
  have hclaim : registry.get "c" = .ok claiming :=
    (Start.empty.keeps_after [counting, claiming]).get "c"
  have hrefused : registry.Refuses "none" := by
    intro format hget
    rw [hnone] at hget
    cases hget
  have hkept : ¬ registry.Refuses "c" := fun h => absurd (h claiming hclaim) (by decide)
  obtain ⟨hbad, hgood, hsame⟩ := convert_parses_then_serializes .empty [counting, claiming]
  obtain ⟨-, -, hconvert⟩ := hsame [eager, claiming] hrun
  refine ⟨hrun, hrefused, hkept, ?_, ?_, hconvert "a" "count" "count"⟩
  · have hrefusal : registry.refusal "none" = .notFound "none" := by
      unfold refusal has find?
      decide +kernel
    exact hrefusal ▸ (hbad "none" hrefused).2 "a" "c"
  · have hparse : registry.parse "a" "count" = ⟨.error (.unsupported "count" .parsing), []⟩ := by
      unfold Registry.parse
      rw [(Start.empty.keeps_after [counting, claiming]).get "count"]
      rfl
    exact (hgood "c" hkept "a" "count").trans (by rw [hparse]; rfl)

end Registry

end MarkupShorthand
