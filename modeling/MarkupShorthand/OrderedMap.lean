/-
  MarkupShorthand.OrderedMap
  ──────────────────────────
  **A MAP REMEMBERS WHERE A KEY FIRST STOOD AND WHAT IT LAST HELD.**

  Attributes and style declarations are written out in the order in which they
  were first mentioned; a later mention of the same name replaces the value
  where it stands.  `OrderedMap` is the list of its entries together with the
  proof that no key occurs twice, so two maps are equal exactly when they list
  the same entries in the same order (`OrderedMap.ext`).

  Main facts: `keys_set` (where a key goes), `get?_set` (what it holds).
-/

namespace MarkupShorthand

/-! ## §1. Entries: writing and reading. -/

/-- The entries with `value` at `key`: in place where the key occurs, at the end
otherwise. -/
def writeEntry {α : Type} (key : String) (value : α) :
    List (String × α) → List (String × α)
  | [] => [(key, value)]
  | (k, v) :: rest =>
    if k = key then (k, value) :: rest else (k, v) :: writeEntry key value rest

theorem keys_writeEntry {α : Type} (key : String) (value : α) (entries : List (String × α)) :
    (writeEntry key value entries).map Prod.fst =
      if key ∈ entries.map Prod.fst then entries.map Prod.fst
      else entries.map Prod.fst ++ [key] := by
  induction entries with
  | nil => simp [writeEntry]
  | cons entry rest ih =>
    obtain ⟨k, v⟩ := entry
    by_cases h : k = key
    · simp [writeEntry, h]
    · have h' : ¬ key = k := fun e => h e.symm
      by_cases hmem : key ∈ rest.map Prod.fst <;> simp_all [writeEntry]

theorem nodup_writeEntry {α : Type} (key : String) (value : α) {entries : List (String × α)}
    (h : (entries.map Prod.fst).Nodup) :
    ((writeEntry key value entries).map Prod.fst).Nodup := by
  rw [keys_writeEntry]
  split
  · exact h
  · next hmem =>
    rw [List.nodup_append]
    refine ⟨h, by simp, ?_⟩
    intro a ha b hb
    simp only [List.mem_singleton] at hb
    subst hb
    exact fun e => hmem (e ▸ ha)

/-- The value at `key`, if there is one. -/
def readEntry {α : Type} (key : String) : List (String × α) → Option α
  | [] => none
  | (k, v) :: rest => if k = key then some v else readEntry key rest

theorem readEntry_writeEntry {α : Type} (key : String) (value : α) (other : String)
    (entries : List (String × α)) :
    readEntry other (writeEntry key value entries) =
      if key = other then some value else readEntry other entries := by
  induction entries with
  | nil => simp [writeEntry, readEntry]
  | cons entry rest ih =>
    obtain ⟨k, v⟩ := entry
    by_cases hk : k = key
    · subst hk
      by_cases ho : k = other <;> simp [writeEntry, readEntry, ho]
    · by_cases ho : k = other
      · subst ho
        have hk' : ¬ key = k := fun e => hk e.symm
        simp [writeEntry, readEntry, hk, hk']
      · simp [writeEntry, readEntry, hk, ho, ih]

/-! ## §2. The map. -/

/-- Text keys with text values, in the order in which the keys were first
written. -/
@[ext] structure OrderedMap where
  /-- The entries in order. -/
  entries : List (String × String)
  /-- No key occurs twice. -/
  distinct : (entries.map Prod.fst).Nodup

namespace OrderedMap

instance : DecidableEq OrderedMap := fun a b =>
  decidable_of_iff (a.entries = b.entries) OrderedMap.ext_iff.symm

/-- The map without entries. -/
def empty : OrderedMap := ⟨[], by simp⟩

instance : EmptyCollection OrderedMap := ⟨empty⟩

instance : Inhabited OrderedMap := ⟨empty⟩

/-- Writes `value` at `key`. -/
def set (map : OrderedMap) (key value : String) : OrderedMap :=
  ⟨writeEntry key value map.entries, nodup_writeEntry key value map.distinct⟩

/-- What the map holds at `key`. -/
def get? (map : OrderedMap) (key : String) : Option String :=
  readEntry key map.entries

/-- The keys in order. -/
def keys (map : OrderedMap) : List String :=
  map.entries.map Prod.fst

/-- Whether `key` was ever written. -/
def contains (map : OrderedMap) (key : String) : Bool :=
  map.keys.contains key

/-- The number of entries. -/
def size (map : OrderedMap) : Nat :=
  map.entries.length

/-- Whether nothing was ever written. -/
def isEmpty (map : OrderedMap) : Bool :=
  map.entries.isEmpty

/-- The map after writing the pairs one after the other. -/
def setAll (map : OrderedMap) (pairs : List (String × String)) : OrderedMap :=
  pairs.foldl (fun m pair => m.set pair.1 pair.2) map

/-- The map that writing the pairs one after the other leaves. -/
def ofPairs (pairs : List (String × String)) : OrderedMap :=
  empty.setAll pairs

/-! ## §3. What writing does to the views. -/

@[simp] theorem entries_empty : (∅ : OrderedMap).entries = [] := rfl

theorem keys_set (map : OrderedMap) (key value : String) :
    (map.set key value).keys =
      if key ∈ map.keys then map.keys else map.keys ++ [key] :=
  keys_writeEntry key value map.entries

theorem get?_set (map : OrderedMap) (key value other : String) :
    (map.set key value).get? other = if key = other then some value else map.get? other :=
  readEntry_writeEntry key value other map.entries

end OrderedMap

end MarkupShorthand
