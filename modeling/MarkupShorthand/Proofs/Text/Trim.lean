/-
  MarkupShorthand.Proofs.Text.Trim
  ────────────────────────────────
  **TRIMMING TAKES NOTHING FROM A TEXT THAT BEGINS AND ENDS VISIBLY, AND LEAVES
  SUCH A TEXT.**

      StartsVisible   the first character, if there is one, is not a blank
      EndsVisible     the last character, if there is one, is not a blank

  Both hold of the empty text, and so pass to concatenations.  A text that is
  `Visible` has something between its ends.  The pieces of a split text do not
  hold the character that it was split at.
-/
import MarkupShorthand.Text.Blank

namespace MarkupShorthand.Text

/-! ## §1. Visible ends. -/

/-- The first character, if there is one, is not a blank. -/
def StartsVisible (cs : List Char) : Prop :=
  ∀ c, cs.head? = some c → isBlank c = false

/-- The last character, if there is one, is not a blank. -/
def EndsVisible (cs : List Char) : Prop :=
  ∀ c, cs.getLast? = some c → isBlank c = false

instance (cs : List Char) : Decidable (StartsVisible cs) :=
  decidable_of_iff (cs.head?.all fun c => !isBlank c) <| by
    unfold StartsVisible
    cases cs.head? <;> simp

instance (cs : List Char) : Decidable (EndsVisible cs) :=
  decidable_of_iff (cs.getLast?.all fun c => !isBlank c) <| by
    unfold EndsVisible
    cases cs.getLast? <;> simp

theorem startsVisible_cons {c : Char} (h : isBlank c = false) (cs : List Char) :
    StartsVisible (c :: cs) := by
  intro d hd
  rw [List.head?_cons, Option.some.injEq] at hd
  rwa [← hd]

theorem StartsVisible.append {cs ds : List Char} (h : StartsVisible cs) (hne : cs ≠ []) :
    StartsVisible (cs ++ ds) := by
  cases cs with
  | nil => exact absurd rfl hne
  | cons c cs => exact startsVisible_cons (h c rfl) (cs ++ ds)

theorem endsVisible_nil : EndsVisible [] := by
  intro c h
  cases h

theorem endsVisible_concat (cs : List Char) {c : Char} (h : isBlank c = false) :
    EndsVisible (cs ++ [c]) := by
  intro d hd
  rw [List.getLast?_concat, Option.some.injEq] at hd
  rwa [← hd]

theorem endsVisible_append_of_ne_nil (cs : List Char) {ds : List Char} (hne : ds ≠ [])
    (h : EndsVisible ds) : EndsVisible (cs ++ ds) := by
  intro c hc
  apply h c
  rw [← hc, List.getLast?_append, List.getLast?_eq_some_getLast hne, Option.some_or]

theorem EndsVisible.append {cs ds : List Char} (hcs : EndsVisible cs) (hds : EndsVisible ds) :
    EndsVisible (cs ++ ds) := by
  by_cases hne : ds = []
  · rw [hne, List.append_nil]
    exact hcs
  · exact endsVisible_append_of_ne_nil cs hne hds

/-! ## §2. What trimming leaves. -/

theorem trimStart_eq_self {cs : List Char} (h : StartsVisible cs) : trimStart cs = cs := by
  cases cs with
  | nil => rfl
  | cons c cs => simp [trimStart, h c rfl]

theorem trimEnd_eq_self {cs : List Char} (h : EndsVisible cs) : trimEnd cs = cs := by
  induction cs with
  | nil => rfl
  | cons c cs ih =>
    rw [trimEnd_cons]
    cases cs with
    | nil =>
      have hc : isBlank c = false := h c rfl
      simp [hc]
    | cons d ds =>
      -- the rest has the same last character, so nothing of it is trimmed
      have hrest : EndsVisible (d :: ds) := by
        intro e he
        exact h e (by rwa [List.getLast?_cons_cons])
      rw [ih hrest]
      rfl

theorem trim_eq_self {cs : List Char} (hstart : StartsVisible cs) (hend : EndsVisible cs) :
    trim cs = cs := by
  rw [trim, trimStart_eq_self hstart, trimEnd_eq_self hend]

theorem startsVisible_trimStart (cs : List Char) : StartsVisible (trimStart cs) := by
  intro c hc
  have h := List.head?_dropWhile_not isBlank cs
  rw [show cs.dropWhile isBlank = trimStart cs from rfl, hc] at h
  simpa using h

theorem endsVisible_trimEnd (cs : List Char) : EndsVisible (trimEnd cs) := by
  induction cs with
  | nil => exact endsVisible_nil
  | cons c cs ih =>
    rw [trimEnd_cons]
    cases hkept : trimEnd cs with
    | nil =>
      cases hc : isBlank c with
      | true => exact endsVisible_nil
      | false => exact endsVisible_concat [] hc
    | cons d ds =>
      rw [hkept] at ih
      exact endsVisible_append_of_ne_nil [c] (List.cons_ne_nil d ds) ih

/-- Trimming the end leaves the beginning. -/
theorem StartsVisible.trimEnd {cs : List Char} (h : StartsVisible cs) :
    StartsVisible (trimEnd cs) := by
  cases cs with
  | nil => exact h
  | cons c cs =>
    have hc : isBlank c = false := h c rfl
    rw [trimEnd_cons, hc, Bool.and_false]
    exact startsVisible_cons hc (Text.trimEnd cs)

theorem startsVisible_trim (cs : List Char) : StartsVisible (trim cs) :=
  (startsVisible_trimStart cs).trimEnd

theorem endsVisible_trim (cs : List Char) : EndsVisible (trim cs) :=
  endsVisible_trimEnd (trimStart cs)

/-- Something that begins and ends visibly. -/
structure Visible (cs : List Char) : Prop where
  /-- There is something. -/
  ne_nil : cs ≠ []
  /-- It begins visibly. -/
  starts : StartsVisible cs
  /-- It ends visibly. -/
  ends : EndsVisible cs

theorem visible_trim {cs : List Char} (h : trim cs ≠ []) : Visible (trim cs) :=
  ⟨h, startsVisible_trim cs, endsVisible_trim cs⟩

theorem Visible.trim_eq {cs : List Char} (h : Visible cs) : trim cs = cs :=
  trim_eq_self h.starts h.ends

/-- Nothing is left exactly if there is nothing but blanks. -/
theorem trimEnd_eq_nil_iff (cs : List Char) : trimEnd cs = [] ↔ cs.all isBlank = true := by
  induction cs with
  | nil => simp
  | cons c cs ih =>
    rw [trimEnd_cons, List.all_cons]
    cases isBlank c with
    | false => simp
    | true =>
      rw [Bool.and_true, Bool.true_and, ← ih]
      cases trimEnd cs with
      | nil => simp
      | cons d ds => simp

theorem mem_of_mem_trimEnd {c : Char} {cs : List Char} (h : c ∈ trimEnd cs) : c ∈ cs := by
  induction cs with
  | nil => exact h
  | cons d cs ih =>
    rw [trimEnd_cons] at h
    split at h
    · cases h
    · rcases List.mem_cons.mp h with rfl | h
      · exact List.mem_cons_self
      · exact List.mem_cons_of_mem d (ih h)

theorem mem_of_mem_trim {c : Char} {cs : List Char} (h : c ∈ trim cs) : c ∈ cs :=
  (List.dropWhile_suffix isBlank).subset (mem_of_mem_trimEnd h)

/-! ## §3. Texts without certain characters. -/

/-- None of these characters is in the text. -/
def FreeOf (banned cs : List Char) : Prop :=
  ∀ c ∈ cs, c ∉ banned

instance (banned cs : List Char) : Decidable (FreeOf banned cs) :=
  decidable_of_iff (cs.all fun c => !banned.contains c) (by simp [FreeOf])

theorem freeOf_nil (banned : List Char) : FreeOf banned [] := by
  intro c hc
  cases hc

theorem FreeOf.mono {banned banned' cs : List Char} (h : FreeOf banned cs)
    (hsub : banned' ⊆ banned) : FreeOf banned' cs :=
  fun c hc hbanned => h c hc (hsub hbanned)

theorem FreeOf.subset {banned cs cs' : List Char} (h : FreeOf banned cs)
    (hsub : ∀ c ∈ cs', c ∈ cs) : FreeOf banned cs' :=
  fun c hc => h c (hsub c hc)

theorem FreeOf.append {banned cs ds : List Char} (hcs : FreeOf banned cs)
    (hds : FreeOf banned ds) : FreeOf banned (cs ++ ds) := by
  intro c hc
  rcases List.mem_append.mp hc with hc | hc
  · exact hcs c hc
  · exact hds c hc

theorem FreeOf.cons {banned cs : List Char} {c : Char} (hc : c ∉ banned)
    (hcs : FreeOf banned cs) : FreeOf banned (c :: cs) := by
  intro d hd
  rcases List.mem_cons.mp hd with rfl | hd
  · exact hc
  · exact hcs d hd

theorem FreeOf.not_mem {banned cs : List Char} (h : FreeOf banned cs) {c : Char}
    (hc : c ∈ banned) : c ∉ cs :=
  fun hmem => h c hmem hc

/-- A character is banned on top of the others. -/
theorem FreeOf.and_not_mem {banned cs : List Char} (h : FreeOf banned cs) {c : Char}
    (hc : c ∉ cs) : FreeOf (c :: banned) cs := by
  intro d hd hbanned
  rcases List.mem_cons.mp hbanned with rfl | hbanned
  · exact hc hd
  · exact h d hd hbanned

/-! ## §4. The pieces of a split text. -/

/-- What is in a piece is in the text and is no separator. -/
theorem mem_of_mem_splitOnP {isSep : Char → Bool} {c : Char} {cs piece : List Char}
    (hpiece : piece ∈ cs.splitOnP isSep) (hc : c ∈ piece) : c ∈ cs ∧ isSep c = false := by
  induction cs generalizing piece with
  | nil =>
    rw [List.splitOnP_nil, List.mem_singleton] at hpiece
    rw [hpiece] at hc
    cases hc
  | cons d cs ih =>
    have hrest : ∀ other ∈ cs.splitOnP isSep, c ∈ other → c ∈ d :: cs ∧ isSep c = false := by
      intro other hother hin
      exact ⟨List.mem_cons_of_mem d (ih hother hin).1, (ih hother hin).2⟩
    rw [List.splitOnP_cons_eq_if_modifyHead] at hpiece
    by_cases hd : isSep d = true
    · -- a new piece begins behind the separator
      rw [if_pos hd] at hpiece
      rcases List.mem_cons.mp hpiece with rfl | hpiece
      · cases hc
      · exact hrest piece hpiece hc
    · -- the character goes in front of the first piece
      rw [if_neg hd] at hpiece
      cases hsplit : cs.splitOnP isSep with
      | nil => exact absurd hsplit (List.splitOnP_ne_nil isSep cs)
      | cons first others =>
        rw [hsplit, List.modifyHead_cons] at hpiece
        rw [hsplit] at hrest
        rcases List.mem_cons.mp hpiece with rfl | hpiece
        · rcases List.mem_cons.mp hc with rfl | hc
          · exact ⟨List.mem_cons_self, Bool.eq_false_iff.mpr hd⟩
          · exact hrest first List.mem_cons_self hc
        · exact hrest piece (List.mem_cons_of_mem first hpiece) hc

theorem mem_of_mem_splitOn {c sep : Char} {cs piece : List Char} (hpiece : piece ∈ cs.splitOn sep)
    (hc : c ∈ piece) : c ∈ cs ∧ c ≠ sep := by
  rw [List.splitOn_eq_splitOnP] at hpiece
  obtain ⟨hmem, hsep⟩ := mem_of_mem_splitOnP hpiece hc
  exact ⟨hmem, by simpa using hsep⟩

theorem mem_of_mem_words {c : Char} {cs word : List Char} (hword : word ∈ words cs)
    (hc : c ∈ word) : c ∈ cs :=
  (mem_of_mem_splitOnP (List.mem_filter.mp hword).1 hc).1

end MarkupShorthand.Text
