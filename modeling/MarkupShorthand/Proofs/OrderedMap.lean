/-
  MarkupShorthand.Proofs.OrderedMap
  ─────────────────────────────────
  **A MAP HOLDS NOTHING BUT WHAT WAS WRITTEN, AND WRITING ITS ENTRIES GIVES IT
  BACK.**

  Two mentions of a key decide about its entry: the first about the place, the
  last about the value.

      keys_setAll      the keys, each where it is first mentioned
      get?_setAll      the last value that the pairs give to a key, or else what
                       the map held before
      setAll_ofPairs   so pairs may be merged before they are written
-/
import Mathlib.Data.Finset.Card
import MarkupShorthand.OrderedMap

namespace MarkupShorthand

/-! ## §1. What a map holds was written. -/

theorem mem_writeEntry {α : Type} {key : String} {value : α} {entry : String × α} :
    ∀ {entries : List (String × α)}, entry ∈ writeEntry key value entries →
      entry = (key, value) ∨ entry ∈ entries
  | [], h => Or.inl (List.mem_singleton.mp h)
  | (k, v) :: rest, h => by
    unfold writeEntry at h
    split at h
    · next hk =>
      rcases List.mem_cons.mp h with h | h
      · exact Or.inl (hk ▸ h)
      · exact Or.inr (List.mem_cons_of_mem _ h)
    · rcases List.mem_cons.mp h with h | h
      · exact Or.inr (h ▸ List.mem_cons_self)
      · rcases mem_writeEntry h with h | h
        · exact Or.inl h
        · exact Or.inr (List.mem_cons_of_mem _ h)

/-- A key that is not there is written at the end. -/
theorem writeEntry_of_not_mem {α : Type} {key : String} (value : α) :
    ∀ {entries : List (String × α)}, key ∉ entries.map Prod.fst →
      writeEntry key value entries = entries ++ [(key, value)]
  | [], _ => rfl
  | (k, v) :: rest, h => by
    have hk : ¬ k = key := fun e => h (e ▸ List.mem_cons_self)
    have hrest : key ∉ rest.map Prod.fst := fun hmem => h (List.mem_cons_of_mem _ hmem)
    -- the key is neither here nor further on, so it goes to the end
    rw [writeEntry, if_neg hk, writeEntry_of_not_mem value hrest]
    rfl

namespace OrderedMap

theorem mem_entries_set {map : OrderedMap} {key value : String} {entry : String × String}
    (h : entry ∈ (map.set key value).entries) : entry = (key, value) ∨ entry ∈ map.entries :=
  mem_writeEntry h

theorem mem_entries_setAll {entry : String × String} :
    ∀ {pairs : List (String × String)} {map : OrderedMap}, entry ∈ (map.setAll pairs).entries →
      entry ∈ pairs ∨ entry ∈ map.entries
  | [], _, h => Or.inr h
  | pair :: pairs, map, h => by
    have hrest : entry ∈ ((map.set pair.1 pair.2).setAll pairs).entries := h
    rcases mem_entries_setAll hrest with h | h
    · exact Or.inl (List.mem_cons_of_mem pair h)
    · rcases mem_entries_set h with h | h
      · exact Or.inl (h ▸ List.mem_cons_self)
      · exact Or.inr h

theorem mem_entries_ofPairs {entry : String × String} {pairs : List (String × String)}
    (h : entry ∈ (ofPairs pairs).entries) : entry ∈ pairs := by
  rcases mem_entries_setAll h with h | h
  · exact h
  · cases h

/-- What is read is an entry. -/
theorem mem_entries_of_get? {key value : String} :
    ∀ {entries : List (String × String)}, readEntry key entries = some value →
      (key, value) ∈ entries
  | [], h => by cases h
  | (k, v) :: rest, h => by
    unfold readEntry at h
    split at h
    · next hk =>
      rw [Option.some.injEq] at h
      rw [hk, h]
      exact List.mem_cons_self
    · exact List.mem_cons_of_mem _ (mem_entries_of_get? h)

/-! ## §2. Writing pairs of distinct keys. -/

/-- New keys are written behind the old ones, in order. -/
theorem entries_setAll_of_distinct :
    ∀ (pairs : List (String × String)) (map : OrderedMap),
      ((map.entries ++ pairs).map Prod.fst).Nodup →
      (map.setAll pairs).entries = map.entries ++ pairs
  | [], map, _ => (List.append_nil map.entries).symm
  | (key, value) :: pairs, map, h => by
    have hnew : key ∉ map.entries.map Prod.fst := by
      rw [List.map_append] at h
      intro hmem
      exact (List.nodup_append.mp h).2.2 key hmem key List.mem_cons_self rfl
    -- after one step the map is longer by the pair, and the other keys are still new
    have hset : (map.set key value).entries = map.entries ++ [(key, value)] :=
      writeEntry_of_not_mem value hnew
    have hnext := entries_setAll_of_distinct pairs (map.set key value)
      (by rwa [hset, List.append_assoc])
    rw [hset, List.append_assoc] at hnext
    exact hnext

/-- **WRITING THE ENTRIES OF A MAP GIVES IT BACK.** -/
theorem ofPairs_entries (map : OrderedMap) : ofPairs map.entries = map :=
  OrderedMap.ext (entries_setAll_of_distinct map.entries empty map.distinct)

/-! ## §3. The keys of any writes. -/

/-- A key that is mentioned once more stands behind the others if it is new. -/
theorem eraseDups_concat (mentions : List String) (key : String) :
    (mentions ++ [key]).eraseDups
      = if key ∈ mentions then mentions.eraseDups else mentions.eraseDups ++ [key] := by
  rw [List.eraseDups_append]
  by_cases h : key ∈ mentions <;> simp [List.removeAll, List.eraseDups_cons, h]

/-- **STEP**: writing at a key mentions it once more. -/
theorem keys_set_of_mentions {map : OrderedMap} {mentions : List String}
    (h : map.keys = mentions.eraseDups) (key value : String) :
    (map.set key value).keys = (mentions ++ [key]).eraseDups := by
  rw [keys_set, eraseDups_concat, h]
  simp only [List.mem_eraseDups]

/-- **RUN**: so does writing any pairs, one after the other. -/
theorem keys_setAll {map : OrderedMap} {mentions : List String}
    (h : map.keys = mentions.eraseDups) (pairs : List (String × String)) :
    (map.setAll pairs).keys = (mentions ++ pairs.map Prod.fst).eraseDups := by
  induction pairs generalizing map mentions with
  | nil => rwa [List.map_nil, List.append_nil]
  | cons pair pairs ih =>
    have hnext := ih (keys_set_of_mentions h pair.1 pair.2)
    rwa [List.append_assoc, List.singleton_append] at hnext

theorem keys_ofPairs (pairs : List (String × String)) :
    (ofPairs pairs).keys = (pairs.map Prod.fst).eraseDups := by
  have hnone : empty.keys = ([] : List String).eraseDups := rfl
  exact keys_setAll hnone pairs

theorem eraseDups_keys (map : OrderedMap) : map.keys.eraseDups = map.keys := by
  have hkeys := keys_ofPairs map.entries
  rw [ofPairs_entries] at hkeys
  exact hkeys.symm

/-- There are as many entries as there are different keys among those mentioned. -/
theorem size_of_mentions {map : OrderedMap} {mentions : List String}
    (h : map.keys = mentions.eraseDups) : map.size = mentions.toFinset.card := by
  have hsame : map.keys.toFinset = mentions.toFinset := by
    apply List.toFinset.ext
    intro key
    rw [h, List.mem_eraseDups]
  have hdistinct : map.keys.Nodup := map.distinct
  rw [← hsame, List.toFinset_card_of_nodup hdistinct]
  exact (List.length_map Prod.fst).symm

/-! ## §4. The values of any writes. -/

/-- The values that pairs give to a key, in order. -/
def valuesAt (key : String) (pairs : List (String × String)) : List String :=
  pairs.filterMap fun pair => if pair.1 = key then some pair.2 else none

/-- **RUN**: what a map holds after pairs were written is the last value that they
give, or else what it held before. -/
theorem get?_setAll (map : OrderedMap) (pairs : List (String × String)) (key : String) :
    (map.setAll pairs).get? key = (valuesAt key pairs).getLast?.or (map.get? key) := by
  induction pairs generalizing map with
  | nil => rfl
  | cons pair pairs ih =>
    have hnext : (map.setAll (pair :: pairs)).get? key
        = (valuesAt key pairs).getLast?.or ((map.set pair.1 pair.2).get? key) := ih _
    rw [hnext, get?_set]
    by_cases h : pair.1 = key
    · have hvalues : valuesAt key (pair :: pairs) = [pair.2] ++ valuesAt key pairs :=
        List.filterMap_cons_some (if_pos h)
      rw [if_pos h, hvalues, List.getLast?_append, Option.or_assoc]
      rfl
    · have hvalues : valuesAt key (pair :: pairs) = valuesAt key pairs :=
        List.filterMap_cons_none (if_neg h)
      rw [if_neg h, hvalues]

theorem get?_ofPairs (pairs : List (String × String)) (key : String) :
    (ofPairs pairs).get? key = (valuesAt key pairs).getLast? :=
  (get?_setAll empty pairs key).trans (Option.or_none)

/-! ## §5. Merging before writing. -/

/-- Entries with the same keys in the same order and the same values at them are
the same. -/
theorem entries_eq_of_views :
    ∀ {entries others : List (String × String)}, (entries.map Prod.fst).Nodup →
      entries.map Prod.fst = others.map Prod.fst →
      (∀ key ∈ entries.map Prod.fst, readEntry key entries = readEntry key others) →
      entries = others
  | [], [], _, _, _ => rfl
  | (key, value) :: entries, (key', value') :: others, hdistinct, hkeys, hvalues => by
    rw [List.map_cons, List.map_cons, List.cons.injEq] at hkeys
    obtain ⟨rfl, hrestKeys⟩ := hkeys
    obtain ⟨hnew, hrestDistinct⟩ := List.nodup_cons.mp hdistinct
    have hvalue : some value = some value' := by
      simpa [readEntry] using hvalues key List.mem_cons_self
    have hrest : entries = others := by
      refine entries_eq_of_views hrestDistinct hrestKeys fun other hother => ?_
      -- another key is not read from the entry in front
      have hne : ¬ key = other := fun e => hnew (e ▸ hother)
      simpa [readEntry, hne] using hvalues other (List.mem_cons_of_mem key hother)
    rw [Option.some.inj hvalue, hrest]

/-- A map is its keys and what it holds at them. -/
theorem ext_of_views {map other : OrderedMap} (hkeys : map.keys = other.keys)
    (hvalues : ∀ key, map.get? key = other.get? key) : map = other :=
  OrderedMap.ext (entries_eq_of_views map.distinct hkeys fun key _ => hvalues key)

/-- An entry is read at its key. -/
theorem readEntry_of_mem :
    ∀ {entries : List (String × String)}, (entries.map Prod.fst).Nodup →
      ∀ entry ∈ entries, readEntry entry.1 entries = some entry.2
  | (key, value) :: rest, hdistinct, entry, hentry => by
    obtain ⟨hnew, hrest⟩ := List.nodup_cons.mp hdistinct
    unfold readEntry
    rcases List.mem_cons.mp hentry with rfl | hentry
    · exact if_pos rfl
    · have hkey : entry.1 ∈ rest.map Prod.fst := List.mem_map_of_mem hentry
      have hne : ¬ key = entry.1 := fun e => hnew (e ▸ hkey)
      rw [if_neg hne]
      exact readEntry_of_mem hrest entry hentry

/-- **TWO MAPS ARE THE SAME IF THEY LIST THE SAME KEYS AND ONE HOLDS THE ENTRIES OF THE
OTHER.** -/
theorem eq_iff_holds {map other : OrderedMap} :
    map = other
      ↔ map.keys = other.keys ∧ ∀ entry ∈ other.entries, map.get? entry.1 = some entry.2 := by
  constructor
  · rintro rfl
    exact ⟨rfl, readEntry_of_mem map.distinct⟩
  · rintro ⟨hkeys, hentries⟩
    refine OrderedMap.ext (entries_eq_of_views map.distinct hkeys fun key hkey => ?_)
    -- the key has an entry in the other map
    have hother : key ∈ other.keys := hkeys ▸ hkey
    obtain ⟨entry, hentry, rfl⟩ := List.mem_map.mp hother
    exact (hentries entry hentry).trans (readEntry_of_mem other.distinct entry hentry).symm

/-- Mentions may be freed of repetitions before they are added to others. -/
theorem eraseDups_append_eraseDups (mentions more : List String) :
    (mentions ++ more.eraseDups).eraseDups = (mentions ++ more).eraseDups := by
  induction more using List.reverseRecOn with
  | nil => rfl
  | append_singleton more key ih =>
    rw [eraseDups_concat, ← List.append_assoc, eraseDups_concat]
    by_cases h : key ∈ more
    · simp [h, ih]
    · simp [h, ih, ← List.append_assoc, eraseDups_concat]

/-- **PAIRS MAY BE MERGED BEFORE THEY ARE WRITTEN**: the map that they leave by
themselves says the same as they do one by one. -/
theorem setAll_ofPairs (map : OrderedMap) (pairs : List (String × String)) :
    map.setAll (ofPairs pairs).entries = map.setAll pairs := by
  have hself := map.eraseDups_keys.symm
  refine ext_of_views ?_ fun key => ?_
  · have hmerged : (ofPairs pairs).entries.map Prod.fst = (pairs.map Prod.fst).eraseDups :=
      keys_ofPairs pairs
    rw [keys_setAll hself, keys_setAll hself, hmerged, eraseDups_append_eraseDups]
  · have hmerged : (valuesAt key (ofPairs pairs).entries).getLast?
        = (valuesAt key pairs).getLast? := by
      rw [← get?_ofPairs, ofPairs_entries, get?_ofPairs]
    rw [get?_setAll, get?_setAll, hmerged]

end OrderedMap

end MarkupShorthand
