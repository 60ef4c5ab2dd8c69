/-
  MarkupShorthand.Proofs.Text.Run
  ───────────────────────────────
  **A RUN ENDS WHERE THE FIRST CHARACTER STANDS THAT DOES NOT BELONG TO IT, AND
  SO A TEXT FALLS INTO A RUN AND THE REST IN ONE WAY.**

  All cuts of the line grammar take the longest run of some class.  Two notions
  say what may stand behind a run:

      Stops P rest         `rest` does not go on with the class `P`
      Leads allowed rest   behind its blanks, `rest` goes on with one of the
                           characters `allowed`, or not at all

  Main facts: `takeWhile_append_stops`, `dropWhile_append_stops` (a run is cut
  off exactly), `run_unique` and, for a run up to a closing character,
  `cut_unique`.
-/
import Mathlib.Data.List.TakeWhile
import MarkupShorthand.Text.Blank

namespace MarkupShorthand.Text

/-! ## §1. Runs. -/

/-- The text does not go on with a character of the class. -/
def Stops (P : Char → Bool) (rest : List Char) : Prop :=
  ∀ c, rest.head? = some c → P c = false

theorem stops_nil (P : Char → Bool) : Stops P [] := by
  intro c h
  simp at h

theorem stops_cons {P : Char → Bool} {c : Char} {rest : List Char} (h : P c = false) :
    Stops P (c :: rest) := by
  intro d hd
  simp only [List.head?_cons, Option.some.injEq] at hd
  rw [← hd]
  exact h

theorem stops_dropWhile (P : Char → Bool) (cs : List Char) : Stops P (cs.dropWhile P) := by
  intro c h
  have := List.head?_dropWhile_not P cs
  rw [h] at this
  simpa using this

/-- A run in front of a text that does not continue it is what `takeWhile` takes. -/
theorem takeWhile_append_stops {P : Char → Bool} {run rest : List Char}
    (hrun : ∀ c ∈ run, P c = true) (hstop : Stops P rest) :
    (run ++ rest).takeWhile P = run := by
  rw [List.takeWhile_append_of_pos hrun]
  cases rest with
  | nil => simp
  | cons c rest => simp [hstop c rfl]

/-- ... and the rest is what `dropWhile` leaves. -/
theorem dropWhile_append_stops {P : Char → Bool} {run rest : List Char}
    (hrun : ∀ c ∈ run, P c = true) (hstop : Stops P rest) :
    (run ++ rest).dropWhile P = rest := by
  rw [List.dropWhile_append_of_pos hrun]
  cases rest with
  | nil => simp
  | cons c rest => simp [hstop c rfl]

/-- **A text falls into a run and a rest that does not continue it in one way.** -/
theorem run_unique {P : Char → Bool} {run run' rest rest' : List Char}
    (hrun : ∀ c ∈ run, P c = true) (hrun' : ∀ c ∈ run', P c = true)
    (hstop : Stops P rest) (hstop' : Stops P rest')
    (h : run ++ rest = run' ++ rest') : run = run' ∧ rest = rest' := by
  constructor
  · rw [← takeWhile_append_stops hrun hstop, h, takeWhile_append_stops hrun' hstop']
  · rw [← dropWhile_append_stops hrun hstop, h, dropWhile_append_stops hrun' hstop']

/-- What is free of a character is a run of the others. -/
theorem forall_bne_of_not_mem {close : Char} {cs : List Char} (h : close ∉ cs) :
    ∀ c ∈ cs, (c != close) = true := by
  intro c hc
  rw [bne_iff_ne]
  exact fun e => h (e ▸ hc)

theorem stops_bne (close : Char) (rest : List Char) : Stops (· != close) (close :: rest) :=
  stops_cons (by simp)

/-- Up to its first `close`, a text is taken ... -/
theorem takeWhile_cut {close : Char} {run : List Char} (h : close ∉ run) (rest : List Char) :
    (run ++ close :: rest).takeWhile (· != close) = run :=
  takeWhile_append_stops (forall_bne_of_not_mem h) (stops_bne close rest)

/-- ... and from there on it is left. -/
theorem dropWhile_cut {close : Char} {run : List Char} (h : close ∉ run) (rest : List Char) :
    (run ++ close :: rest).dropWhile (· != close) = close :: rest :=
  dropWhile_append_stops (forall_bne_of_not_mem h) (stops_bne close rest)

/-- **A text that ends at the first `close` is told apart from what is behind.** -/
theorem cut_unique {close : Char} {run run' rest rest' : List Char} (h : close ∉ run)
    (h' : close ∉ run') (heq : run ++ close :: rest = run' ++ close :: rest') :
    run = run' ∧ rest = rest' := by
  obtain ⟨hrun, hrest⟩ := run_unique (forall_bne_of_not_mem h) (forall_bne_of_not_mem h')
    (stops_bne close rest) (stops_bne close rest') heq
  exact ⟨hrun, (List.cons.inj hrest).2⟩

theorem not_mem_takeWhile_bne (close : Char) (cs : List Char) :
    close ∉ cs.takeWhile (· != close) := by
  intro h
  have := List.mem_takeWhile_imp h
  simp at this

/-- Where `dropWhile` stops at all, it stops at the character that ends the run. -/
theorem dropWhile_bne_eq_cons {close c : Char} {cs rest : List Char}
    (h : cs.dropWhile (· != close) = c :: rest) : c = close := by
  have := stops_dropWhile (· != close) cs c (by rw [h]; rfl)
  simpa using this

/-! ## §2. Blanks in front. -/

/-- A run of blanks, possibly empty. -/
def IsGap (cs : List Char) : Prop :=
  ∀ c ∈ cs, isBlank c = true

theorem isGap_nil : IsGap [] := by
  intro c h
  cases h

theorem isGap_takeWhile (cs : List Char) : IsGap (cs.takeWhile isBlank) := by
  intro c h
  exact List.mem_takeWhile_imp h

theorem isGap_of_all {cs : List Char} (h : cs.all isBlank = true) : IsGap cs := by
  intro c hc
  exact List.all_eq_true.mp h c hc

theorem trimStart_gap_append {gap : List Char} (h : IsGap gap) (rest : List Char) :
    trimStart (gap ++ rest) = trimStart rest :=
  List.dropWhile_append_of_pos h

theorem trim_gap_append {gap : List Char} (h : IsGap gap) (rest : List Char) :
    trim (gap ++ rest) = trim rest :=
  congrArg trimEnd (trimStart_gap_append h rest)

theorem trimStart_cons_of_blank {c : Char} (h : isBlank c = true) (rest : List Char) :
    trimStart (c :: rest) = trimStart rest := by
  simp [trimStart, h]

theorem trimStart_cons_of_not_blank {c : Char} (h : isBlank c = false) (rest : List Char) :
    trimStart (c :: rest) = c :: rest := by
  simp [trimStart, h]

theorem trimStart_of_gap {gap : List Char} (h : IsGap gap) : trimStart gap = [] := by
  have := trimStart_gap_append h []
  rwa [List.append_nil] at this

/-- A text is its leading blanks and what is left without them. -/
theorem takeWhile_append_trimStart (cs : List Char) :
    cs.takeWhile isBlank ++ trimStart cs = cs :=
  List.takeWhile_append_dropWhile

/-! ## §3. What stands behind the blanks. -/

/-- None of these characters is of the class. -/
def Misses (P : Char → Bool) (cs : List Char) : Prop :=
  ∀ c ∈ cs, P c = false

-- by running through the list, and not through all characters
instance (P : Char → Bool) (cs : List Char) : Decidable (Misses P cs) :=
  decidable_of_iff (cs.all fun c => !P c) (by simp [Misses])

/-- Behind its blanks, the text goes on with one of these characters or ends. -/
def Leads (allowed : List Char) (rest : List Char) : Prop :=
  ∀ c, (trimStart rest).head? = some c → c ∈ allowed

theorem Leads.mono {allowed allowed' rest : List Char} (h : Leads allowed rest)
    (hsub : allowed ⊆ allowed') : Leads allowed' rest :=
  fun c hc => hsub (h c hc)

theorem leads_of_gap {gap : List Char} (h : IsGap gap) : Leads [] gap := by
  intro c hc
  rw [trimStart_of_gap h] at hc
  simp at hc

theorem leads_gap_cons {allowed gap : List Char} {c : Char} (hgap : IsGap gap)
    (hc : isBlank c = false) (hmem : c ∈ allowed) (rest : List Char) :
    Leads allowed (gap ++ c :: rest) := by
  intro d hd
  rw [trimStart_gap_append hgap, trimStart_cons_of_not_blank hc] at hd
  simp only [List.head?_cons, Option.some.injEq] at hd
  rwa [← hd]

/-- Behind the blanks there is nothing but one of the allowed characters. -/
theorem Leads.mem {allowed rest more : List Char} {c : Char} (h : Leads allowed rest)
    (hrest : trimStart rest = c :: more) : c ∈ allowed :=
  h c (by rw [hrest]; rfl)

/-- A class of which none of the allowed characters is part does not begin behind
the blanks. -/
theorem Leads.takeWhile_trimStart {P : Char → Bool} {allowed rest : List Char}
    (h : Leads allowed rest) (hallowed : Misses P allowed) :
    (trimStart rest).takeWhile P = [] := by
  cases hrest : trimStart rest with
  | nil => rfl
  | cons c more => simp [hallowed c (h.mem hrest)]

/-- A class of which neither the blanks nor the allowed characters are part does
not go on. -/
theorem Leads.stops {P : Char → Bool} {allowed rest : List Char} (h : Leads allowed rest)
    (hblank : ∀ c, isBlank c = true → P c = false) (hallowed : Misses P allowed) :
    Stops P rest := by
  intro c hc
  cases rest with
  | nil => simp at hc
  | cons d more =>
    simp only [List.head?_cons, Option.some.injEq] at hc
    subst hc
    cases hd : isBlank d with
    | true => exact hblank d hd
    | false => exact hallowed d (h.mem (trimStart_cons_of_not_blank hd more))

/-! ## §4. Numbers. -/

/-- A number is written in digits. -/
theorem isDigit_of_mem_toString {n : Nat} {c : Char} (h : c ∈ (toString n).toList) :
    c.isDigit = true := by
  rw [Nat.toString_eq_repr, Nat.toList_repr] at h
  exact Nat.isDigit_of_mem_toDigits (by decide) (by decide) h

end MarkupShorthand.Text
