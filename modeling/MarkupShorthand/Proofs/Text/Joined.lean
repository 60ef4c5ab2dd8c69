/-
  MarkupShorthand.Proofs.Text.Joined
  ──────────────────────────────────
  **ITEMS THAT SHOW WHERE THEY END ARE STILL TOLD APART WHEN THEY ARE WRITTEN ONE
  BEHIND THE OTHER.**

      SelfDelimiting Ok item            no text begins with two different items
      DelimitedBefore Follows Ok item   ... with one of the texts that may follow
      NoItem Ok item rest               `rest` does not begin with an item

  A row of items, each perhaps behind a separator, falls into its items in one
  way, if what stands behind the row cannot be taken for one more item.
-/

namespace MarkupShorthand.Text

variable {α : Type} {Ok : α → Prop} {item : α → List Char}

/-! ## §1. Items. -/

/-- No text begins with two different items: an item shows where it ends. -/
def SelfDelimiting (Ok : α → Prop) (item : α → List Char) : Prop :=
  ∀ (a b : α) (rest rest' : List Char), Ok a → Ok b →
    item a ++ rest = item b ++ rest' → a = b ∧ rest = rest'

/-- Before the texts that may follow, an item shows where it ends. -/
def DelimitedBefore (Follows : List Char → Prop) (Ok : α → Prop) (item : α → List Char) : Prop :=
  ∀ (a b : α) (rest rest' : List Char), Ok a → Ok b → Follows rest → Follows rest' →
    item a ++ rest = item b ++ rest' → a = b ∧ rest = rest'

/-- The text does not begin with an item. -/
def NoItem (Ok : α → Prop) (item : α → List Char) (rest : List Char) : Prop :=
  ∀ a more, Ok a → ¬ rest = item a ++ more

/-- A separator in front changes nothing. -/
theorem SelfDelimiting.behind (h : SelfDelimiting Ok item) (separator : List Char) :
    SelfDelimiting Ok fun a => separator ++ item a := by
  intro a b rest rest' ha hb heq
  rw [List.append_assoc, List.append_assoc] at heq
  exact h a b rest rest' ha hb (List.append_cancel_left heq)

/-! ## §2. Rows of items. -/

/-- **RUN**: a row of items falls into its items in one way, if they show where they
end before one more item and before what stands behind the row. -/
theorem DelimitedBefore.flatMap_inj {Follows : List Char → Prop}
    (h : DelimitedBefore Follows Ok item) (hitem : ∀ a more, Ok a → Follows (item a ++ more)) :
    ∀ {as bs : List α} {rest rest' : List Char}, (∀ a ∈ as, Ok a) → (∀ b ∈ bs, Ok b) →
      Follows rest → Follows rest' → NoItem Ok item rest → NoItem Ok item rest' →
      as.flatMap item ++ rest = bs.flatMap item ++ rest' → as = bs ∧ rest = rest'
  | [], [], _, _, _, _, _, _, _, _, heq => ⟨rfl, heq⟩
  | [], b :: bs, rest, _, _, hbs, _, _, hrest, _, heq => by
    rw [List.flatMap_cons, List.append_assoc] at heq
    exact absurd heq (hrest b _ (hbs b List.mem_cons_self))
  | a :: as, [], _, rest', has, _, _, _, _, hrest', heq => by
    rw [List.flatMap_cons, List.append_assoc] at heq
    exact absurd heq.symm (hrest' a _ (has a List.mem_cons_self))
  | a :: as, b :: bs, rest, rest', has, hbs, hfollows, hfollows', hrest, hrest', heq => by
    have has' : ∀ c ∈ as, Ok c := fun c hc => has c (List.mem_cons_of_mem a hc)
    have hbs' : ∀ c ∈ bs, Ok c := fun c hc => hbs c (List.mem_cons_of_mem b hc)
    have hbehind : ∀ {cs : List α} {more : List Char}, (∀ c ∈ cs, Ok c) → Follows more →
        Follows (cs.flatMap item ++ more) := by
      intro cs more hcs hmore
      cases cs with
      | nil => exact hmore
      | cons c cs =>
        rw [List.flatMap_cons, List.append_assoc]
        exact hitem c _ (hcs c List.mem_cons_self)
    rw [List.flatMap_cons, List.flatMap_cons, List.append_assoc, List.append_assoc] at heq
    -- the first items are told apart, and the induction is on what is behind them
    obtain ⟨hab, hmore⟩ := h a b _ _ (has a List.mem_cons_self) (hbs b List.mem_cons_self)
      (hbehind has' hfollows) (hbehind hbs' hfollows') heq
    obtain ⟨hasbs, hrests⟩ := DelimitedBefore.flatMap_inj h hitem has' hbs' hfollows hfollows'
      hrest hrest' hmore
    exact ⟨by rw [hab, hasbs], hrests⟩

/-- ... and items that always show where they end do so before anything. -/
theorem SelfDelimiting.flatMap_inj (h : SelfDelimiting Ok item) {as bs : List α}
    {rest rest' : List Char} (has : ∀ a ∈ as, Ok a) (hbs : ∀ b ∈ bs, Ok b)
    (hrest : NoItem Ok item rest) (hrest' : NoItem Ok item rest')
    (heq : as.flatMap item ++ rest = bs.flatMap item ++ rest') : as = bs ∧ rest = rest' := by
  have hbefore : DelimitedBefore (fun _ => True) Ok item :=
    fun a b rest rest' ha hb _ _ => h a b rest rest' ha hb
  exact hbefore.flatMap_inj (fun _ _ _ => trivial) has hbs trivial trivial hrest hrest' heq

/-- A joined row is its first item and the others, each behind a separator. -/
theorem intercalate_cons {β : Type} (separator first : List β) (others : List (List β)) :
    separator.intercalate (first :: others)
      = first ++ others.flatMap fun other => separator ++ other := by
  induction others generalizing first with
  | nil => simp
  | cons second others ih =>
    rw [List.intercalate_cons_cons, ih, List.flatMap_cons]
    simp only [List.append_assoc]

/-- Joined rows joined are the rows in one. -/
theorem intercalate_append (separator : List Char) {rows others : List (List Char)}
    (hrows : rows ≠ []) (hothers : others ≠ []) :
    separator.intercalate (rows ++ others)
      = separator.intercalate rows ++ (separator ++ separator.intercalate others) := by
  cases rows with
  | nil => exact absurd rfl hrows
  | cons first rows =>
    cases others with
    | nil => exact absurd rfl hothers
    | cons other others =>
      rw [List.cons_append, intercalate_cons, intercalate_cons, intercalate_cons,
        List.flatMap_append, List.flatMap_cons]
      simp only [List.append_assoc]

/-- **A JOINED ROW FALLS INTO ITS ITEMS IN ONE WAY**, if what stands behind it is
neither an item nor a separator with an item. -/
theorem SelfDelimiting.intercalate_inj (h : SelfDelimiting Ok item) {separator : List Char}
    {as bs : List α} {rest rest' : List Char} (has : ∀ a ∈ as, Ok a) (hbs : ∀ b ∈ bs, Ok b)
    (hrest : NoItem Ok item rest) (hrest' : NoItem Ok item rest')
    (hmore : NoItem Ok (fun a => separator ++ item a) rest)
    (hmore' : NoItem Ok (fun a => separator ++ item a) rest')
    (heq : separator.intercalate (as.map item) ++ rest
      = separator.intercalate (bs.map item) ++ rest') : as = bs ∧ rest = rest' := by
  cases as with
  | nil =>
    cases bs with
    | nil => exact ⟨rfl, heq⟩
    | cons b bs =>
      rw [List.map_cons, intercalate_cons, List.append_assoc] at heq
      exact absurd heq (hrest b _ (hbs b List.mem_cons_self))
  | cons a as =>
    cases bs with
    | nil =>
      rw [List.map_cons, intercalate_cons, List.append_assoc] at heq
      exact absurd heq.symm (hrest' a _ (has a List.mem_cons_self))
    | cons b bs =>
      rw [List.map_cons, List.map_cons, intercalate_cons, intercalate_cons,
        List.append_assoc, List.append_assoc] at heq
      obtain ⟨hab, hothers⟩ := h a b _ _ (has a List.mem_cons_self) (hbs b List.mem_cons_self) heq
      rw [List.flatMap_map, List.flatMap_map] at hothers
      obtain ⟨hasbs, hrests⟩ := (h.behind separator).flatMap_inj
        (fun c hc => has c (List.mem_cons_of_mem a hc))
        (fun c hc => hbs c (List.mem_cons_of_mem b hc)) hmore hmore' hothers
      exact ⟨by rw [hab, hasbs], hrests⟩

/-! ## §3. Pieces between separators that none of them holds. -/

theorem not_mem_intercalate {c : Char} {separator : List Char} (hseparator : c ∉ separator) :
    ∀ {pieces : List (List Char)}, (∀ piece ∈ pieces, c ∉ piece) →
      c ∉ separator.intercalate pieces
  | [], _ => List.not_mem_nil
  | first :: others, h => by
    have hothers : ∀ other ∈ others, c ∉ other :=
      fun other hother => h other (List.mem_cons_of_mem first hother)
    rw [intercalate_cons]
    simp only [List.mem_append, List.mem_flatMap, not_or, not_exists, not_and]
    exact ⟨h first List.mem_cons_self, fun other hother => ⟨hseparator, hothers other hother⟩⟩

/-- What was joined with a separator that no piece holds is split into the pieces
again, unless there is none. -/
theorem splitOn_joined {separator : Char} {pieces : List (List Char)}
    (h : ∀ piece ∈ pieces, piece ≠ [] ∧ separator ∉ piece) :
    ([separator].intercalate pieces).splitOn separator
      = if pieces = [] then [[]] else pieces := by
  split
  · next hnil =>
    rw [hnil]
    exact List.splitOn_nil separator
  · next hne =>
    exact List.splitOn_intercalate separator (fun piece hpiece => (h piece hpiece).2) hne

/-- **THE PIECES OF A JOINED TEXT ARE KNOWN** if none is empty or holds the
separator. -/
theorem intercalate_pieces_inj {separator : Char} {pieces pieces' : List (List Char)}
    (h : ∀ piece ∈ pieces, piece ≠ [] ∧ separator ∉ piece)
    (h' : ∀ piece ∈ pieces', piece ≠ [] ∧ separator ∉ piece)
    (heq : [separator].intercalate pieces = [separator].intercalate pieces') :
    pieces = pieces' := by
  have hsplit := congrArg (List.splitOn separator) heq
  rw [splitOn_joined h, splitOn_joined h'] at hsplit
  -- no pieces are split as one empty piece, which neither list holds
  split at hsplit
  · next hnil =>
    split at hsplit
    · next hnil' => rw [hnil, hnil']
    · exact absurd rfl (h' [] (hsplit ▸ List.mem_singleton_self [])).1
  · split at hsplit
    · exact absurd rfl (h [] (hsplit ▸ List.mem_singleton_self [])).1
    · exact hsplit

end MarkupShorthand.Text
