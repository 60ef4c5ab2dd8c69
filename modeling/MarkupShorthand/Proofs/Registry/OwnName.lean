/-
  MarkupShorthand.Proofs.Registry.OwnName
  ───────────────────────────────────────
  **A FORMAT ANSWERS TO ITS OWN NAME UNLESS ANOTHER FORMAT HAS TAKEN THE NAME AS
  AN ALIAS.**

  A name that is listed always leads to a format, but aliases are looked up
  first and are never given back.  So the name leads to its own format exactly
  while it is the format's own:

      OwnName            nobody lists the name as an alias, or the last one that
                         does bears it
      get_own_name       which is what being found under it comes to
      name_taken         a format that is listed and that no word leads to
-/
import MarkupShorthand.Proofs.Registry.History

namespace MarkupShorthand.Registry

/-! ## §1. Whose name it is. -/

/-- The last format that lists the name as an alias, if any does, bears the name
itself. -/
def OwnName (history : List Format) (name : String) : Prop :=
  ∀ format, lastWithAlias history name = some format → format.name = name

theorem ownName_iff {history : List Format} {name : String} :
    OwnName history name ↔ meaning history name = name := by
  unfold OwnName meaning
  cases lastWithAlias history name with
  | none => simp
  | some taker => simp

/-- The last format with a name is there once a format with that name was
registered. -/
theorem exists_lastNamed {history : List Format} {name : String}
    (h : ∃ format ∈ history, format.name = name) :
    ∃ found, lastNamed history name = some found ∧ found.name = name := by
  cases hlast : lastNamed history name with
  | none =>
    obtain ⟨format, hformat, hname⟩ := h
    exact absurd hname (lastNamed_eq_none.mp hlast format hformat)
  | some found => exact ⟨found, rfl, beq_iff_eq.mp (mem_of_lastThat hlast).2⟩

/-- A word that was registered as a name means a name that was registered. -/
theorem exists_named_meaning {history : List Format} {name : String}
    (h : ∃ format ∈ history, format.name = name) :
    ∃ format ∈ history, format.name = meaning history name := by
  unfold meaning
  cases htaker : lastWithAlias history name with
  | none => exact h
  | some taker => exact ⟨taker, (mem_of_lastThat htaker).1, rfl⟩

/-! ## §2. What a name leads to. -/

/-- A name that was registered leads to the last format with the name that it
means. -/
theorem Keeps.get_name {registry : Registry} {history : List Format} (h : Keeps registry history)
    {name : String} (hname : ∃ format ∈ history, format.name = name) :
    ∃ found ∈ registry.formats, registry.get name = .ok found
      ∧ found.name = meaning history name
      ∧ lastNamed history (meaning history name) = some found := by
  obtain ⟨found, hfound, hmeaning⟩ := exists_lastNamed (exists_named_meaning hname)
  have hkept := h.find (meaning history name)
  rw [hfound] at hkept
  refine ⟨found, List.mem_of_find?_eq_some hkept, ?_, hmeaning, hfound⟩
  rw [h.get, hfound]

/-- **A FORMAT ANSWERS TO ITS OWN NAME AS LONG AS THE NAME IS ITS OWN.**  After any
run of registrations, a format that is registered is found under its name exactly
if the last format that lists this name as an alias, if there is one, bears it
too.  Every name that is listed leads to a format that is kept, and to the one
with that name under the same condition. -/
theorem get_own_name (start : Start) (run : List Format) :
    (∀ format, ((start.after run).register format).get format.name = .ok format
        ↔ OwnName (start.registered run ++ [format]) format.name)
      ∧ ∀ name ∈ (start.after run).names, ∃ found ∈ (start.after run).formats,
          (start.after run).get name = .ok found
            ∧ (found.name = name ↔ OwnName (start.registered run) name) := by
  have hkeeps := start.keeps_after run
  constructor
  · intro format
    have hnext := hkeeps.register format
    have hnamed : ∃ other ∈ start.registered run ++ [format], other.name = format.name :=
      ⟨format, by simp, rfl⟩
    obtain ⟨found, -, hget, hmeaning, hlast⟩ := hnext.get_name hnamed
    rw [hget, ownName_iff, Except.ok.injEq]
    constructor
    · rintro rfl
      exact hmeaning.symm
    · -- the name means itself, and the last format with it is the new one
      intro hown
      unfold lastNamed at hlast
      rw [hown, lastThat_append_singleton, if_pos (beq_self_eq_true format.name)] at hlast
      exact (Option.some.inj hlast).symm
  · intro name hname
    obtain ⟨found, hfound, hget, hmeaning, -⟩ := hkeeps.get_name ((hkeeps.mem_names name).mp hname)
    exact ⟨found, hfound, hget, by rw [ownName_iff, hmeaning]⟩

/-- A format whose name was an alias of another one takes the name back by listing
it among its own aliases. -/
theorem get_own_name_taken_back :
    let taker : Format := { name := "b", aliases := ["a"] }
    let format : Format := { name := "a", aliases := ["a"] }
    let registry := Start.empty.after [taker, format]
    "a" ∈ registry.names
      ∧ ((Start.empty.after [taker]).register format).get "a" = .ok format
      ∧ ∃ found ∈ registry.formats, registry.get "a" = .ok found ∧ found.name = "a" := by
  intro taker format registry
  have hown : OwnName [taker, format] "a" := by
    intro last hlast
    cases hlast
    rfl
  have hlisted : "a" ∈ registry.names := by decide
  obtain ⟨found, hfound, hget, hname⟩ :=
    (get_own_name .empty [taker, format]).2 "a" hlisted
  exact ⟨hlisted, ((get_own_name .empty [taker]).1 format).mpr hown,
    found, hfound, hget, hname.mpr hown⟩

/-- **A NAME CAN BE TAKEN.**  A format that is registered behind one that lists its
name as an alias is listed, and its name leads to the other. -/
theorem name_taken :
    let taker : Format := { name := "a", aliases := ["b"] }
    let format : Format := { name := "b" }
    let registry := (Start.empty.after [taker]).register format
    registry.names = ["a", "b"] ∧ registry.get "b" = .ok taker ∧ ¬ taker.name = "b"
      ∧ ¬ ∀ (start : Start) (run : List Format) (next : Format),
        ((start.after run).register next).get next.name = .ok next := by
  intro taker format registry
  have hget : registry.get "b" = .ok taker :=
    ((Start.empty.keeps_after [taker]).register format).get "b"
  refine ⟨by decide, hget, by decide, ?_⟩
  intro h
  have hsame : taker = format := Except.ok.inj (hget.symm.trans (h .empty [taker] format))
  exact absurd (congrArg Format.name hsame) (by decide)

end MarkupShorthand.Registry
