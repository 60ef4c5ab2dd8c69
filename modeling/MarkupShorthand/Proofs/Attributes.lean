/-
  MarkupShorthand.Proofs.Attributes
  ─────────────────────────────────
  **ATTRIBUTES TELL OF THEIR WRITES WHERE A KEY CAME FIRST AND WHAT IT WAS LAST
  SET TO; THE CLASS ALSO TELLS WHAT WAS ADDED SINCE.**

  There are two kinds of writes: setting a key, which forgets what was there, and
  adding a word to the class, which keeps it.  Either one sets a key to a value
  made of what the key held (`Write.applyTo_eq_set`), and this one step decides about
  all runs:

      keys_written         each key that was written, in the order of first writes
      get?_written         a key other than the class: the last value it was set to
      get?_written_class   the class: that value, with the words added after it
-/
import Mathlib.Data.List.DropRight
import MarkupShorthand.Node
import MarkupShorthand.Proofs.OrderedMap

namespace MarkupShorthand.Attributes

open OrderedMap

/-! ## §1. Class words. -/

/-- The class with one more word: behind a space where something is held, as it is
otherwise. -/
def withWord (held : Option String) (word : String) : String :=
  match held with
  | none => word
  | some held => if held = "" then word else held ++ " " ++ word

/-- The class with more words, added one after the other. -/
def withWords (held : Option String) (words : List String) : Option String :=
  words.foldl (fun held word => some (withWord held word)) held

theorem withWords_concat (held : Option String) (words : List String) (word : String) :
    withWords held (words ++ [word]) = some (withWord (withWords held words) word) := by
  unfold withWords
  rw [List.foldl_append]
  rfl

theorem intercalate_ne_empty {word : String} (hword : word ≠ "") (words : List String) :
    " ".intercalate (word :: words) ≠ "" := by
  cases words with
  | nil => rwa [String.intercalate_singleton]
  | cons next words =>
    intro h
    rw [String.intercalate_cons_cons, String.append_eq_empty_iff, String.append_eq_empty_iff] at h
    exact hword h.1.1

/-- **WORDS ADDED TO NOTHING** stand with one space between them; a word that is
empty still has its space unless only empty ones are in front of it. -/
theorem withWords_none (words : List String) :
    withWords none words
      = if words = [] then none else some (" ".intercalate (words.dropWhile (· = ""))) := by
  induction words using List.reverseRecOn with
  | nil => rfl
  | append_singleton words word ih =>
    rw [withWords_concat, if_neg (by simp), ih, List.dropWhile_append]
    by_cases hwords : words = []
    · rw [if_pos hwords, hwords]
      by_cases hword : word = "" <;> simp [withWord, hword]
    rw [if_neg hwords]
    cases hdrop : words.dropWhile (· = "") with
    | nil =>
      -- all words so far are empty, so the new one takes their place
      by_cases hword : word = "" <;> simp [withWord, hword]
    | cons first others =>
      -- what is held begins with a word that is not empty
      have hfirst : first ≠ "" := by
        have hhead := List.head?_dropWhile_not (fun word : String => decide (word = "")) words
        rw [hdrop] at hhead
        simpa using hhead
      have hjoined : " ".intercalate (first :: others ++ [word])
          = " ".intercalate (first :: others) ++ " " ++ word := by
        rw [String.intercalate_append_of_ne_nil (List.cons_ne_nil first others) (by simp),
          String.intercalate_singleton]
      simp only [withWord, if_neg (intercalate_ne_empty hfirst others), List.isEmpty_cons,
        Bool.false_eq_true, if_false, hjoined]

example : withWords none ["", "a", "", "b"] = some "a  b" := by decide

/-- Words that are not empty are joined by single spaces. -/
theorem withWords_none_of_not_mem {words : List String} (h : "" ∉ words) :
    withWords none words = if words = [] then none else some (" ".intercalate words) := by
  rw [withWords_none]
  cases words with
  | nil => rfl
  | cons word words =>
    have hword : word ≠ "" := fun e => h (e ▸ List.mem_cons_self)
    rw [List.dropWhile_cons_of_neg (by simpa using hword)]

/-! ## §2. One write. -/

/-- A write to attributes. -/
inductive Write where
  /-- Sets a key to a value. -/
  | set (key value : String)
  /-- Adds a word to the class. -/
  | addClass (word : String)
  deriving DecidableEq

namespace Write

/-- The key that is written. -/
def key : Write → String
  | .set key _ => key
  | .addClass _ => classKey

/-- The value that a key is set to, if the write sets it. -/
def valueAt? (key : String) : Write → Option String
  | .set name value => if name = key then some value else none
  | .addClass _ => none

/-- The word that is added to the class. -/
def word? : Write → Option String
  | .set _ _ => none
  | .addClass word => some word

/-- What is made of the value that the key held. -/
def valueOver (held : Option String) : Write → String
  | .set _ value => value
  | .addClass word => withWord held word

/-- The attributes after the write. -/
def applyTo (attrs : Attributes) : Write → Attributes
  | .set key value => OrderedMap.set attrs key value
  | .addClass word => Attributes.addClass attrs word

/-- **STEP**: a write sets its key to what it makes of the value there. -/
theorem applyTo_eq_set (attrs : Attributes) (write : Write) :
    write.applyTo attrs
      = OrderedMap.set attrs write.key (write.valueOver (attrs.get? write.key)) := by
  cases write with
  | set key value => rfl
  | addClass word =>
    show Attributes.addClass attrs word = attrs.set classKey (withWord (attrs.get? classKey) word)
    unfold Attributes.addClass
    cases attrs.get? classKey <;> rfl

end Write

/-! ## §3. Runs of writes. -/

/-- The attributes after a run of writes. -/
def written (writes : List Write) : Attributes :=
  writes.foldl Write.applyTo ∅

/-- The value that a key was last set to. -/
def lastSet? (key : String) (writes : List Write) : Option String :=
  (writes.filterMap (Write.valueAt? key)).getLast?

/-- The words that were added after the class was last set. -/
def wordsSinceSet (writes : List Write) : List String :=
  (writes.rtakeWhile fun write => (write.valueAt? classKey).isNone).filterMap Write.word?

theorem written_concat (writes : List Write) (write : Write) :
    written (writes ++ [write]) = write.applyTo (written writes) := by
  unfold written
  rw [List.foldl_append]
  rfl

/-- If the class was never set, every word counts. -/
theorem wordsSinceSet_of_no_set {writes : List Write}
    (h : ∀ write ∈ writes, write.valueAt? classKey = none) :
    wordsSinceSet writes = writes.filterMap Write.word? := by
  unfold wordsSinceSet
  rw [List.rtakeWhile_eq_self_iff.mpr]
  intro write hwrite
  rw [h write hwrite]
  rfl

theorem lastSet?_of_no_set {key : String} {writes : List Write}
    (h : ∀ write ∈ writes, write.valueAt? key = none) : lastSet? key writes = none := by
  unfold lastSet?
  rw [List.filterMap_eq_nil_iff.mpr h]
  rfl

theorem lastSet?_concat (key : String) (writes : List Write) (write : Write) :
    lastSet? key (writes ++ [write]) = (write.valueAt? key).or (lastSet? key writes) := by
  unfold lastSet?
  rw [List.filterMap_append, List.getLast?_append]
  cases h : write.valueAt? key <;> simp [h]

theorem wordsSinceSet_concat (writes : List Write) (write : Write) :
    wordsSinceSet (writes ++ [write])
      = if (write.valueAt? classKey).isNone then wordsSinceSet writes ++ write.word?.toList
        else [] := by
  unfold wordsSinceSet
  rw [List.rtakeWhile_concat]
  split
  · rw [List.filterMap_append]
    cases h : write.word? <;> simp [h]
  · rfl

/-- **RUN**: the keys are those that were written, in the order of first writes. -/
theorem keys_written (writes : List Write) :
    (written writes).keys = (writes.map Write.key).eraseDups := by
  -- from the end: the last write mentions one more key
  induction writes using List.reverseRecOn with
  | nil => rfl
  | append_singleton writes write ih =>
    rw [written_concat, write.applyTo_eq_set, List.map_append]
    exact keys_set_of_mentions ih _ _

/-- **RUN**: a key other than the class holds the last value it was set to. -/
theorem get?_written {key : String} (hkey : key ≠ classKey) (writes : List Write) :
    (written writes).get? key = lastSet? key writes := by
  induction writes using List.reverseRecOn with
  | nil => rfl
  | append_singleton writes write ih =>
    rw [written_concat, write.applyTo_eq_set, get?_set, lastSet?_concat, ih]
    cases write with
    | set name value =>
      by_cases hname : name = key <;> simp [Write.key, Write.valueAt?, Write.valueOver, hname]
    | addClass word => simp [Write.key, Write.valueAt?, hkey.symm]

/-- **RUN**: the class holds the last value it was set to, with the words that were
added after that. -/
theorem get?_written_class (writes : List Write) :
    (written writes).get? classKey
      = withWords (lastSet? classKey writes) (wordsSinceSet writes) := by
  induction writes using List.reverseRecOn with
  | nil => rfl
  | append_singleton writes write ih =>
    rw [written_concat, write.applyTo_eq_set, get?_set, lastSet?_concat, wordsSinceSet_concat]
    cases write with
    | set name value =>
      -- setting the class forgets all words, setting another key none
      by_cases hname : name = classKey
      · simp [Write.key, Write.valueAt?, Write.valueOver, withWords, hname]
      · simp [Write.key, Write.valueAt?, Write.word?, hname, ih]
    | addClass word =>
      -- one more word since the class was set, and nothing else has changed
      have hwords := withWords_concat (lastSet? classKey writes) (wordsSinceSet writes) word
      simp [Write.key, Write.valueAt?, Write.word?, Write.valueOver, ih, hwords]

/-- Collecting pairs is a run that sets each key. -/
theorem ofPairs_eq_written (pairs : List (String × String)) :
    (ofPairs pairs : Attributes) = written (pairs.map fun pair => .set pair.1 pair.2) := by
  unfold written
  rw [List.foldl_map]
  rfl

/-! ## §4. What a run leaves. -/

/-- **ATTRIBUTES AFTER ANY RUN OF WRITES**, from none.  The keys are those that were
written, each once and in the order of first writes, and so many.  A key other than
the class holds the value it was last set to.  The class holds the value it was last
set to, or nothing, with the words that were added after that, each behind a space
unless nothing or an empty text is held.  Collecting pairs, of attributes or of
styles, is setting one after the other, so a key stands where it is first mentioned
and holds the value that it is last given. -/
theorem views_after_run :
    (∀ writes : List Write,
        (written writes).keys = (writes.map Write.key).eraseDups
          ∧ (written writes).size = (writes.map Write.key).toFinset.card
          ∧ (∀ key, key ≠ classKey → (written writes).get? key = lastSet? key writes)
          ∧ (written writes).get? classKey
              = withWords (lastSet? classKey writes) (wordsSinceSet writes))
      ∧ ∀ pairs : List (String × String),
          (ofPairs pairs : Attributes) = written (pairs.map fun pair => .set pair.1 pair.2)
            ∧ (ofPairs pairs : Styles)
                = pairs.foldl (fun styles pair => styles.set pair.1 pair.2) ∅
            ∧ (ofPairs pairs).keys = (pairs.map Prod.fst).eraseDups
            ∧ ∀ key, (ofPairs pairs).get? key = (valuesAt key pairs).getLast? := by
  constructor
  · intro writes
    have hkeys := keys_written writes
    exact ⟨hkeys, size_of_mentions hkeys, fun key hkey => get?_written hkey writes,
      get?_written_class writes⟩
  · intro pairs
    exact ⟨ofPairs_eq_written pairs, rfl, keys_ofPairs pairs, get?_ofPairs pairs⟩

/-- The class is set to the empty text between words, one of the words added after
it is empty, and another key is set twice around all that. -/
theorem views_after_interleaved_run :
    let writes : List Write :=
      [.addClass "a", .set "title" "x", .addClass "b", .set "class" "", .addClass "c",
        .addClass "", .set "title" "y", .addClass "d"]
    (written writes).keys = ["class", "title"]
      ∧ (written writes).size = 2
      ∧ "title" ≠ classKey ∧ (written writes).get? "title" = some "y"
      ∧ (written writes).get? classKey = some "c  d" := by
  intro writes
  obtain ⟨hkeys, hsize, hother, hclass⟩ := views_after_run.1 writes
  have htitle : "title" ≠ classKey := by decide
  exact ⟨hkeys.trans (by decide), hsize.trans (by decide), htitle,
    (hother "title" htitle).trans (by decide), hclass.trans (by decide)⟩

end MarkupShorthand.Attributes
