/-
  MarkupShorthand.Proofs.Setting.Writing
  ──────────────────────────────────────
  **ENTRIES WITH DIFFERENT KEYS EACH REACH THE PLACE OF THEIR OWN KEY AND NO
  OTHER.**

  Writing a table merges and writing anything else replaces, so what stands at a
  key afterwards depends on what stood there and on what was written
  (`written`).  Keys differ if their small letters do.

      get?_write         one entry
      get?_addAll        entries with distinct keys, in any order
      addToml_eq_addAll  a file whose keys are no paths is such entries
-/
import MarkupShorthand.Setting.OfToml

namespace MarkupShorthand

open Text

/-! ## §1. Entries by their keys. -/

/-- The first entry whose key has these small letters. -/
def entryAt {α : Type} (key : String) (entries : List (String × α)) : Option α :=
  (entries.find? fun entry => lowerCase entry.1 == key).map Prod.snd

/-- No two keys have the same small letters. -/
def DistinctKeys {α : Type} (entries : List (String × α)) : Prop :=
  (entries.map fun entry => lowerCase entry.1).Nodup

instance {α : Type} (entries : List (String × α)) : Decidable (DistinctKeys entries) :=
  inferInstanceAs (Decidable (List.Nodup _))

theorem entryAt_cons {α : Type} (key name : String) (value : α) (entries : List (String × α)) :
    entryAt key ((name, value) :: entries)
      = if lowerCase name = key then some value else entryAt key entries := by
  unfold entryAt
  rw [List.find?_cons]
  by_cases h : lowerCase name = key
  · rw [if_pos h, beq_iff_eq.mpr h]
    rfl
  · rw [if_neg h, beq_eq_false_iff_ne.mpr h]

theorem entryAt_eq_none {α : Type} {key : String} {entries : List (String × α)}
    (h : key ∉ entries.map fun entry => lowerCase entry.1) : entryAt key entries = none := by
  unfold entryAt
  rw [Option.map_eq_none_iff, List.find?_eq_none]
  intro entry hentry heq
  exact h (List.mem_map.mpr ⟨entry, hentry, beq_iff_eq.mp heq⟩)

theorem mem_of_entryAt {α : Type} {key : String} {entries : List (String × α)} {value : α}
    (h : entryAt key entries = some value) :
    ∃ entry ∈ entries, lowerCase entry.1 = key ∧ entry.2 = value := by
  obtain ⟨entry, hfound, hvalue⟩ := Option.map_eq_some_iff.mp h
  have hkey := (List.find?_eq_some_iff_append.mp hfound).1
  exact ⟨entry, List.mem_of_find?_eq_some hfound, beq_iff_eq.mp hkey, hvalue⟩

namespace Setting

/-! ## §2. Writing. -/

/-- What stands at a key after a value was written where `held` stood. -/
def written (held : Option Setting) : Setting → Setting
  | .table entries _ => (held.getD emptyTable).addAll entries
  | .list items origin => .list items origin
  | .scalar value origin => .scalar value origin

theorem get?_congr {setting : Setting} {key other : String} (h : lowerCase key = lowerCase other) :
    setting.get? key = setting.get? other := by
  unfold get?
  rw [h]

theorem get?_write (target : Setting) (key : String) (value : Setting) (other : String) :
    (target.write key value).get? other
      = if lowerCase key = lowerCase other then some (written (target.get? other) value)
        else target.get? other := by
  cases value with
  | scalar value origin => exact get?_write_scalar target key value origin other
  | list items origin =>
    rw [write]
    exact get?_withEntries_writeEntry target key (.list items origin) other
  | table entries origin =>
    rw [write, get?_withEntries_writeEntry]
    split
    · next h =>
      rw [get?_congr h]
      rfl
    · rfl

/-- **ENTRIES WITH DISTINCT KEYS**: each is written where its key says. -/
theorem get?_addAll (key : String) :
    ∀ (entries : List (String × Setting)) (target : Setting), DistinctKeys entries →
      (target.addAll entries).get? key
        = ((entryAt (lowerCase key) entries).map (written (target.get? key))).or
            (target.get? key)
  | [], _, _ => rfl
  | (name, value) :: entries, target, h => by
    obtain ⟨hname, hentries⟩ := List.nodup_cons.mp h
    rw [addAll, get?_addAll key entries _ hentries, entryAt_cons, get?_write]
    by_cases hkey : lowerCase name = lowerCase key
    · -- no later entry has this key
      rw [if_pos hkey, if_pos hkey, entryAt_eq_none (hkey ▸ hname)]
      rfl
    · rw [if_neg hkey, if_neg hkey]

/-- What a table was written to is a table. -/
theorem isTable_write (entries : List (String × Setting)) (origin : Option String) (key : String)
    (value : Setting) :
    ∃ grown, (Setting.table entries origin).write key value = .table grown origin := by
  cases value with
  | scalar value origin =>
    rw [write]
    exact ⟨_, rfl⟩
  | list items origin =>
    rw [write]
    exact ⟨_, rfl⟩
  | table inner origin =>
    rw [write]
    exact ⟨_, rfl⟩

theorem isTable_addAll :
    ∀ (more entries : List (String × Setting)) (origin : Option String),
      ∃ grown, (Setting.table entries origin).addAll more = .table grown origin
  | [], entries, _ => ⟨entries, rfl⟩
  | (key, value) :: more, entries, origin => by
    obtain ⟨grown, hgrown⟩ := isTable_write entries origin key value
    rw [addAll, hgrown]
    exact isTable_addAll more grown origin

/-! ## §3. Files. -/

/-- A key that names no path: it has neither a point nor a bracket. -/
def IsPlainKey (key : String) : Prop :=
  '.' ∉ key.toList ∧ '[' ∉ key.toList

instance (key : String) : Decidable (IsPlainKey key) :=
  inferInstanceAs (Decidable (_ ∧ _))

theorem ofKey_of_isPlainKey {key : String} (h : IsPlainKey key) :
    KeyPath.ofKey key = ⟨key, []⟩ := by
  unfold KeyPath.ofKey KeyPath.ofText?
  simp only
  split
  · rfl
  · cases hrest : key.toList.dropWhile KeyPath.isKeyChar with
    | nil =>
      have hall : key.toList.takeWhile KeyPath.isKeyChar = key.toList := by
        have hsplit := List.takeWhile_append_dropWhile (p := KeyPath.isKeyChar) (l := key.toList)
        rwa [hrest, List.append_nil] at hsplit
      rw [hall, String.ofList_toList, KeyPath.readSteps]
      rfl
    | cons mark rest =>
      -- the path would go on with a point or a bracket
      have hmark : mark ∈ key.toList :=
        (List.dropWhile_sublist KeyPath.isKeyChar).subset (hrest ▸ List.mem_cons_self)
      have hpoint : ¬ mark = '.' := fun e => h.1 (e ▸ hmark)
      have hbracket : ¬ mark = '[' := fun e => h.2 (e ▸ hmark)
      have hnone : ∀ bound, KeyPath.readSteps bound (mark :: rest) = none := by
        intro bound
        cases bound with
        | zero => rfl
        | succ bound => rw [KeyPath.readSteps, if_neg hpoint, if_neg hbracket]
      rw [hnone]
      rfl

theorem entryAt_ofTomlEntries (origin : Option String) (key : String) :
    ∀ entries : List (String × Toml.Value),
      entryAt key (ofTomlEntries origin entries) = (entryAt key entries).map (ofToml origin)
  | [] => rfl
  | (name, value) :: entries => by
    rw [ofTomlEntries, entryAt_cons, entryAt_cons, entryAt_ofTomlEntries origin key entries]
    split <;> rfl

theorem distinctKeys_ofTomlEntries {origin : Option String} {entries : List (String × Toml.Value)}
    (h : DistinctKeys entries) : DistinctKeys (ofTomlEntries origin entries) := by
  have hkeys : ∀ entries : List (String × Toml.Value),
      (ofTomlEntries origin entries).map (fun entry => lowerCase entry.1)
        = entries.map fun entry => lowerCase entry.1 := by
    intro entries
    induction entries with
    | nil => rfl
    | cons entry entries ih =>
      obtain ⟨name, value⟩ := entry
      rw [ofTomlEntries, List.map_cons, List.map_cons, ih]
  unfold DistinctKeys
  rw [hkeys]
  exact h

/-- **A FILE WHOSE KEYS ARE NO PATHS ADDS ITS ENTRIES AS THEY ARE.** -/
theorem addToml_eq_addAll (origin : String) :
    ∀ (entries : List (String × Toml.Value)) (settings : Setting),
      (∀ entry ∈ entries, IsPlainKey entry.1) →
      settings.addToml origin entries = settings.addAll (ofTomlEntries (some origin) entries)
  | [], _, _ => rfl
  | (key, value) :: entries, settings, h => by
    have hentries := addToml_eq_addAll origin entries
      (settings.write key (ofToml (some origin) value))
      fun entry hentry => h entry (List.mem_cons_of_mem _ hentry)
    have hkey : KeyPath.ofKey key = ⟨key, []⟩ :=
      ofKey_of_isPlainKey (h (key, value) List.mem_cons_self)
    have hfirst : settings.addToml origin ((key, value) :: entries)
        = (settings.set (KeyPath.ofKey key).steps (ofToml (some origin) value)).addToml origin
            entries := rfl
    rw [ofTomlEntries, addAll, ← hentries, hfirst, hkey]
    rfl

end Setting

end MarkupShorthand
