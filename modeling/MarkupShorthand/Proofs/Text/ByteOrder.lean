/-
  MarkupShorthand.Proofs.Text.ByteOrder
  ─────────────────────────────────────
  **TEXTS ARE IN THE ORDER OF THEIR BYTES.**

  Texts are compared character by character, by the numbers of the characters.
  A character with a larger number has the larger bytes, whatever stands behind
  it, so the comparison of the bytes comes to the same.
-/

namespace MarkupShorthand.Text

/-! ## §1. Bytes. -/

/-- The bytes of a text. -/
def bytes (text : String) : List UInt8 :=
  text.toUTF8.data.toList

theorem bytes_eq (text : String) : bytes text = text.toList.flatMap String.utf8EncodeChar := by
  have hbytes : text.toByteArray = text.toList.utf8Encode := by
    rw [← String.toByteArray_ofList, String.ofList_toList]
  unfold bytes
  rw [String.toUTF8_eq_toByteArray, hbytes]
  unfold List.utf8Encode
  exact List.toList_data_toByteArray

theorem toNat_lt (c : Char) : c.toNat < 0x110000 := by
  have hvalid := c.valid
  simp only [UInt32.isValidChar, Nat.isValidChar] at hvalid
  show c.val.toNat < 0x110000
  omega

/-- The bytes of a character hold its number to base sixty-four. -/
theorem encoded_cases (c : Char) :
    c.toNat < 0x80 ∧ String.utf8EncodeChar c = [UInt8.ofNat c.toNat]
    ∨ 0x80 ≤ c.toNat ∧ c.toNat < 0x800 ∧ String.utf8EncodeChar c
        = [UInt8.ofNat (c.toNat / 64 + 192), UInt8.ofNat (c.toNat % 64 + 128)]
    ∨ 0x800 ≤ c.toNat ∧ c.toNat < 0x10000 ∧ String.utf8EncodeChar c
        = [UInt8.ofNat (c.toNat / 4096 + 224), UInt8.ofNat (c.toNat / 64 % 64 + 128),
          UInt8.ofNat (c.toNat % 64 + 128)]
    ∨ 0x10000 ≤ c.toNat ∧ String.utf8EncodeChar c
        = [UInt8.ofNat (c.toNat / 262144 + 240), UInt8.ofNat (c.toNat / 4096 % 64 + 128),
          UInt8.ofNat (c.toNat / 64 % 64 + 128), UInt8.ofNat (c.toNat % 64 + 128)] := by
  have hnumber : c.val.toNat = c.toNat := rfl
  have hlt := toNat_lt c
  unfold String.utf8EncodeChar
  simp only [hnumber]
  generalize c.toNat = n at *
  split
  · exact Or.inl ⟨by omega, rfl⟩
  split
  · refine Or.inr (Or.inl ⟨by omega, by omega, ?_⟩)
    rw [Nat.mod_eq_of_lt (by omega : n / 64 < 32)]
  split
  · refine Or.inr (Or.inr (Or.inl ⟨by omega, by omega, ?_⟩))
    rw [Nat.mod_eq_of_lt (by omega : n / 4096 < 16)]
  · refine Or.inr (Or.inr (Or.inr ⟨by omega, ?_⟩))
    rw [Nat.mod_eq_of_lt (by omega : n / 262144 < 8)]

/-! ## §2. The order of characters. -/

/-- A byte decides if it differs; otherwise what is behind it decides. -/
theorem ofNat_cons_lt {a b : Nat} (ha : a < 256) (hb : b < 256) {rest rest' : List UInt8} :
    UInt8.ofNat a :: rest < UInt8.ofNat b :: rest' ↔ a < b ∨ a = b ∧ rest < rest' := by
  rw [List.cons_lt_cons_iff, UInt8.lt_iff_toNat_lt, ← UInt8.toNat_inj, UInt8.toNat_ofNat',
    UInt8.toNat_ofNat', Nat.mod_eq_of_lt ha, Nat.mod_eq_of_lt hb]

/-- The first digit that differs decides. -/
theorem digits_lt {n m : Nat} (h : n < m) :
    n / 262144 < m / 262144 ∨ n / 262144 = m / 262144 ∧
      (n / 4096 % 64 < m / 4096 % 64 ∨ n / 4096 % 64 = m / 4096 % 64 ∧
        (n / 64 % 64 < m / 64 % 64 ∨ n / 64 % 64 = m / 64 % 64 ∧ n % 64 < m % 64)) := by
  omega

/-- **STEP**: the bytes of a character with a larger number are larger, whatever
stands behind them. -/
theorem encoded_lt_encoded {c d : Char} (h : c.toNat < d.toNat) (rest rest' : List UInt8) :
    String.utf8EncodeChar c ++ rest < String.utf8EncodeChar d ++ rest' := by
  have hc := toNat_lt c
  have hd := toNat_lt d
  have hdigits := digits_lt h
  rcases encoded_cases c with ⟨_, hcode⟩ | ⟨_, _, hcode⟩ | ⟨_, _, hcode⟩ | ⟨_, hcode⟩ <;>
    rcases encoded_cases d with ⟨_, hcode'⟩ | ⟨_, _, hcode'⟩ | ⟨_, _, hcode'⟩ | ⟨_, hcode'⟩
  -- a shorter code begins with a smaller byte; equally long ones differ by a digit
  all_goals
    rw [hcode, hcode']
    simp (disch := omega) only [List.cons_append, List.nil_append, ofNat_cons_lt]
    omega

/-! ## §3. The order of texts. -/

theorem append_lt_append_iff (front : List UInt8) {rest rest' : List UInt8} :
    front ++ rest < front ++ rest' ↔ rest < rest' := by
  induction front with
  | nil => rfl
  | cons byte front ih =>
    have hbyte : ¬ byte < byte := by
      rw [UInt8.lt_iff_toNat_lt]
      exact Nat.lt_irrefl _
    rw [List.cons_append, List.cons_append, List.cons_lt_cons_iff, ih]
    simp [hbyte]

theorem encoded_lt_iff : ∀ cs ds : List Char,
    cs.flatMap String.utf8EncodeChar < ds.flatMap String.utf8EncodeChar ↔ cs < ds
  | cs, [] => by simp
  | [], d :: ds => by
    have hsome := String.utf8EncodeChar_ne_nil (c := d)
    cases hcode : String.utf8EncodeChar d with
    | nil => exact absurd hcode hsome
    | cons byte bytes => simp [hcode, List.nil_lt_cons]
  | c :: cs, d :: ds => by
    rw [List.flatMap_cons, List.flatMap_cons, List.cons_lt_cons_iff]
    have hlt : c < d ↔ c.toNat < d.toNat := Iff.rfl
    rcases Nat.lt_trichotomy c.toNat d.toNat with h | h | h
    · exact iff_of_true (encoded_lt_encoded h _ _) (Or.inl (hlt.mpr h))
    · -- the same character in front: what is behind it decides
      have hc : c = d := Char.toNat_inj.mp h
      rw [hc, append_lt_append_iff, encoded_lt_iff cs ds]
      exact ⟨fun hrest => Or.inr ⟨rfl, hrest⟩, fun hor => hor.elim
        (fun hd => absurd hd (Nat.lt_irrefl d.toNat)) And.right⟩
    · refine iff_of_false (List.lt_asymm (encoded_lt_encoded h _ _)) ?_
      rintro (hcd | ⟨rfl, -⟩)
      · exact Nat.lt_asymm h (hlt.mp hcd)
      · exact Nat.lt_irrefl _ h

/-- **TEXTS ARE IN THE ORDER OF THEIR BYTES.** -/
theorem bytes_lt_iff (text other : String) : bytes text < bytes other ↔ text < other := by
  rw [bytes_eq, bytes_eq]
  exact encoded_lt_iff text.toList other.toList

end MarkupShorthand.Text
