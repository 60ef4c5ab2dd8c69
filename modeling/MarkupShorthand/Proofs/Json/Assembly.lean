/-
  MarkupShorthand.Proofs.Json.Assembly
  ────────────────────────────────────
  **FROM ITS TOKENS A WRITTEN VALUE IS PUT TOGETHER AGAIN, WHEREVER IT STANDS.**

      resume            what is left to do once a value is complete
      assemble_value    the tokens of a value complete it inside of any frames
      read_compact      so a compact text is read as the value, with nothing
      read_pretty       behind it, and so is a pretty one

  The induction is on the value, side by side with the rows of items and members
  that an open frame still expects.
-/
import MarkupShorthand.Json.Reading
import MarkupShorthand.Proofs.Json.Scanning

namespace MarkupShorthand.Json

/-! ## §1. Single tokens. -/

/-- What is left to do once a value is complete inside of frames. -/
def resume (value : Reading) (outer : List Frame) (rest : List Token) : Text :=
  match place value outer with
  | none => ⟨value, !rest.isEmpty⟩
  | some frames => assemble .separator frames rest

theorem assemble_complete {expect : Expect} {frames outer : List Frame} {token : Token}
    {value : Reading} (h : take expect frames token = .complete value outer)
    (rest : List Token) :
    assemble expect frames (token :: rest) = resume value outer rest := by
  rw [assemble, h]
  rfl

theorem assemble_proceed {expect next : Expect} {frames frames' : List Frame} {token : Token}
    (h : take expect frames token = .proceed next frames') (rest : List Token) :
    assemble expect frames (token :: rest) = assemble next frames' rest := by
  rw [assemble, h]

namespace Value

/-! ## §2. What a written value is read as. -/

mutual

/-- What a value is read as: all of it is there, and it ends well. -/
def reading : Value → Reading
  | .string text => .string (some text)
  | .array items => .array (readings items) none
  | .object members => .object (memberReadings members) none

/-- What items are read as. -/
def readings : List Value → List Reading
  | [] => []
  | item :: rest => item.reading :: readings rest

/-- What members are read as. -/
def memberReadings : List (String × Value) → List (Option String × Reading)
  | [] => []
  | (key, value) :: rest => (some key, value.reading) :: memberReadings rest

end

/-! ## §3. Values inside of frames. -/

/-- No value begins like the end of an array, so the first item of an array is
read like any other. -/
theorem assemble_firstValue (value : Value) (frames : List Frame) (rest : List Token) :
    assemble .firstValue frames (value.tokens ++ rest)
      = assemble .value frames (value.tokens ++ rest) := by
  cases value <;> rfl

/-- The tokens of the items that are still to come, each behind a comma. -/
def moreItems (items : List Value) : List Token :=
  (itemTokens items).flatMap fun ts => [Token.comma] ++ ts

/-- The tokens of the members that are still to come, each behind a comma. -/
def moreMembers (members : List (String × Value)) : List Token :=
  (memberTokens members).flatMap fun ts => [Token.comma] ++ ts

theorem tokens_array_cons (first : Value) (others : List Value) (rest : List Token) :
    (Value.array (first :: others)).tokens ++ rest
      = .openArray :: (first.tokens ++ (moreItems others ++ .closeArray :: rest)) := by
  rw [tokens, itemTokens, Text.intercalate_cons]
  simp only [moreItems, List.cons_append, List.append_assoc, List.nil_append]

theorem moreItems_cons (item : Value) (items : List Value) (rest : List Token) :
    moreItems (item :: items) ++ rest = .comma :: (item.tokens ++ (moreItems items ++ rest)) := by
  rw [moreItems, itemTokens]
  simp only [moreItems, List.flatMap_cons, List.cons_append, List.append_assoc, List.nil_append]

theorem tokens_object_cons (key : String) (value : Value) (others : List (String × Value))
    (rest : List Token) :
    (Value.object ((key, value) :: others)).tokens ++ rest
      = .openObject :: .string (some key) :: .colon
        :: (value.tokens ++ (moreMembers others ++ .closeObject :: rest)) := by
  rw [tokens, memberTokens, Text.intercalate_cons]
  simp only [moreMembers, List.cons_append, List.append_assoc, List.nil_append]

theorem moreMembers_cons (key : String) (value : Value) (members : List (String × Value))
    (rest : List Token) :
    moreMembers ((key, value) :: members) ++ rest
      = .comma :: .string (some key) :: .colon
        :: (value.tokens ++ (moreMembers members ++ rest)) := by
  rw [moreMembers, memberTokens]
  simp only [moreMembers, List.flatMap_cons, List.cons_append, List.append_assoc, List.nil_append]

mutual

/-- **STEP**: the tokens of a value complete it, whatever is open around it and
whatever stands behind it. -/
theorem assemble_value : ∀ (value : Value) (frames : List Frame) (rest : List Token),
    assemble .value frames (value.tokens ++ rest) = resume value.reading frames rest
  | .string text, frames, rest => by
    unfold tokens reading
    exact assemble_complete rfl rest
  | .array [], frames, rest => by
    show assemble .value frames (.openArray :: .closeArray :: rest) = _
    rw [assemble_proceed rfl, assemble_complete rfl]
    rfl
  | .array (first :: others), frames, rest => by
    rw [tokens_array_cons, assemble_proceed rfl, assemble_firstValue, assemble_value first]
    -- the first item stands in the open array, the others follow
    exact assemble_items others [first.reading] frames rest
  | .object [], frames, rest => by
    show assemble .value frames (.openObject :: .closeObject :: rest) = _
    rw [assemble_proceed rfl, assemble_complete rfl]
    rfl
  | .object ((key, value) :: others), frames, rest => by
    rw [tokens_object_cons, assemble_proceed rfl, assemble_proceed rfl, assemble_proceed rfl,
      assemble_value value]
    exact assemble_members others [(some key, value.reading)] (some key) frames rest

/-- **RUN**: the items that are still to come complete an open array. -/
theorem assemble_items : ∀ (items : List Value) (done : List Reading) (outer : List Frame)
    (rest : List Token),
    assemble .separator (.array done :: outer) (moreItems items ++ .closeArray :: rest)
      = resume (.array (done.reverse ++ readings items) none) outer rest
  | [], done, outer, rest => by
    show assemble .separator (.array done :: outer) (.closeArray :: rest) = _
    rw [assemble_complete rfl]
    unfold readings
    rw [List.append_nil]
  | item :: items, done, outer, rest => by
    rw [moreItems_cons, assemble_proceed rfl, assemble_value item]
    show assemble .separator (.array (item.reading :: done) :: outer) _ = _
    rw [assemble_items items, List.reverse_cons, List.append_assoc, List.singleton_append,
      readings]

/-- **RUN**: the members that are still to come complete an open object. -/
theorem assemble_members : ∀ (members : List (String × Value))
    (done : List (Option String × Reading)) (key : Option String) (outer : List Frame)
    (rest : List Token),
    assemble .separator (.object done key :: outer) (moreMembers members ++ .closeObject :: rest)
      = resume (.object (done.reverse ++ memberReadings members) none) outer rest
  | [], done, key, outer, rest => by
    show assemble .separator (.object done key :: outer) (.closeObject :: rest) = _
    rw [assemble_complete rfl]
    unfold memberReadings
    rw [List.append_nil]
  | (name, value) :: members, done, key, outer, rest => by
    rw [moreMembers_cons, assemble_proceed rfl, assemble_proceed rfl, assemble_proceed rfl,
      assemble_value value]
    show assemble .separator (.object ((some name, value.reading) :: done) (some name) :: outer) _
      = _
    rw [assemble_members members, List.reverse_cons, List.append_assoc, List.singleton_append,
      memberReadings]

end

/-! ## §4. Whole texts. -/

theorem read_of_scans {text : String} {value : Value} (h : Scans text.toList value.tokens) :
    read text = ⟨value.reading, false⟩ := by
  unfold read
  rw [tokens_of_scans h, ← List.append_nil value.tokens, assemble_value]
  rfl

/-- **A COMPACT TEXT IS READ AS THE VALUE THAT IT WAS WRITTEN FROM.** -/
theorem read_compact (value : Value) : read value.compact = ⟨value.reading, false⟩ :=
  read_of_scans (scans_compact value)

/-- **A PRETTY TEXT IS READ AS THE VALUE THAT IT WAS WRITTEN FROM.** -/
theorem read_pretty (value : Value) (level : Nat) :
    read (value.pretty level) = ⟨value.reading, false⟩ :=
  read_of_scans (scans_pretty value level)

end Value

end MarkupShorthand.Json
