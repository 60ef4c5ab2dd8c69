/-
  MarkupShorthand.Proofs.Json.Scanning
  ────────────────────────────────────
  **A WRITTEN VALUE IS CUT INTO THE SAME TOKENS, COMPACT OR PRETTY.**

      Scans cs ts      the text `cs` is cut into the tokens `ts`, whatever stands
                       behind it
      Scans.append     texts one behind the other are cut one by one
      scans_compact    the compact text of a value is cut into its tokens
      scans_pretty     so is its pretty text, at any level

  Only a number or a word could run on into what follows, and none is ever
  written.
-/
import MarkupShorthand.Json.Value
import MarkupShorthand.Proofs.Json.Quoted
import MarkupShorthand.Proofs.Text.Joined

namespace MarkupShorthand.Json

/-! ## §1. Pieces of text. -/

/-- The text is cut into these tokens, whatever stands behind it. -/
def Scans (cs : List Char) (ts : List Token) : Prop :=
  ∀ rest, tokens (cs ++ rest) = ts ++ tokens rest

theorem scans_nil : Scans [] [] := fun _ => rfl

theorem Scans.append {cs ds : List Char} {ts us : List Token} (h : Scans cs ts)
    (h' : Scans ds us) : Scans (cs ++ ds) (ts ++ us) := by
  intro rest
  rw [List.append_assoc, h, h', List.append_assoc]

/-- What leaves no token may follow. -/
theorem Scans.append_none {cs ds : List Char} {ts : List Token} (h : Scans cs ts)
    (h' : Scans ds []) : Scans (cs ++ ds) ts := by
  have happend := h.append h'
  rwa [List.append_nil] at happend

/-- A blank leaves no token. -/
theorem scans_blank {c : Char} (h : isJsonBlank c = true) : Scans [c] [] := by
  intro rest
  rw [List.singleton_append, tokens, if_pos h]
  rfl

/-- A mark is a token by itself. -/
theorem scans_mark {c : Char} {token : Token} (h : markToken? c = some token)
    (hblank : ¬ isJsonBlank c = true) : Scans [c] [token] := by
  intro rest
  have hnext : nextToken c rest = (token, rest) := by
    unfold nextToken
    simp only [h]
  rw [List.singleton_append, tokens, if_neg hblank, hnext]
  rfl

theorem scans_comma : Scans ",".toList [.comma] :=
  scans_mark (c := ',') rfl (by decide)

theorem scans_colon : Scans ":".toList [.colon] :=
  scans_mark (c := ':') rfl (by decide)

theorem scans_openArray : Scans "[".toList [.openArray] :=
  scans_mark (c := '[') rfl (by decide)

theorem scans_closeArray : Scans "]".toList [.closeArray] :=
  scans_mark (c := ']') rfl (by decide)

theorem scans_openObject : Scans "\x7b".toList [.openObject] :=
  scans_mark (c := '{') rfl (by decide)

theorem scans_closeObject : Scans "\x7d".toList [.closeObject] :=
  scans_mark (c := '}') rfl (by decide)

theorem scans_space : Scans [' '] [] :=
  scans_blank (by decide)

/-- A space behind a colon leaves no token of its own. -/
theorem scans_spacedColon : Scans ": ".toList [.colon] :=
  scans_colon.append_none scans_space

theorem markToken?_quote : markToken? '"' = none := rfl

/-- A quoted text is one token. -/
theorem scans_quoted (text : String) : Scans (quoted text).toList [.string (some text)] := by
  intro rest
  have hnext : nextToken '"' (text.toList.flatMap escape ++ '"' :: rest)
      = (.string (some text), rest) := by
    unfold nextToken
    rw [markToken?_quote]
    simp only [if_pos, scanString_quoted, Option.map_some, String.ofList_toList]
  have hchars : (quoted text).toList ++ rest
      = '"' :: (text.toList.flatMap escape ++ '"' :: rest) := by
    simp [quoted, quotedChars, String.toList_ofList]
  rw [hchars, tokens, if_neg (by decide), hnext]
  rfl

/-- A line feed with the indent of a level leaves no token. -/
theorem scans_newLine (level : Nat) : Scans (Value.newLine level).toList [] := by
  have hspaces : ∀ width, Scans (List.replicate width ' ') [] := by
    intro width
    induction width with
    | zero => exact scans_nil
    | succ width ih => exact scans_space.append ih
  unfold Value.newLine
  rw [String.toList_ofList]
  exact (scans_blank (c := '\n') (by decide)).append (hspaces (2 * level))

/-! ## §2. Joined pieces. -/

/-- Every text of a list is cut into the tokens at its place in the other. -/
inductive ScansAll : List String → List (List Token) → Prop where
  | nil : ScansAll [] []
  | cons {part : String} {parts : List String} {ts : List Token} {others : List (List Token)} :
    Scans part.toList ts → ScansAll parts others → ScansAll (part :: parts) (ts :: others)

/-- Texts joined by something that is cut into a comma are cut into their tokens
joined by commas. -/
theorem ScansAll.intercalate {separator : String} (hseparator : Scans separator.toList [.comma])
    {parts : List String} {tss : List (List Token)} (h : ScansAll parts tss) :
    Scans (separator.intercalate parts).toList ([Token.comma].intercalate tss) := by
  rw [String.toList_intercalate]
  cases h with
  | nil => exact scans_nil
  | cons hfirst hothers =>
    rw [List.map_cons, Text.intercalate_cons, Text.intercalate_cons]
    refine hfirst.append ?_
    induction hothers with
    | nil => exact scans_nil
    | cons hpart _ ih =>
      rw [List.map_cons, List.flatMap_cons, List.flatMap_cons]
      exact (hseparator.append hpart).append ih

/-! ## §3. Values. -/

namespace Value

mutual

/-- The tokens of a value. -/
def tokens : Value → List Token
  | .string text => [.string (some text)]
  | .array items => .openArray :: ([Token.comma].intercalate (itemTokens items) ++ [.closeArray])
  | .object members =>
    .openObject :: ([Token.comma].intercalate (memberTokens members) ++ [.closeObject])

/-- The tokens of items. -/
def itemTokens : List Value → List (List Token)
  | [] => []
  | item :: rest => item.tokens :: itemTokens rest

/-- The tokens of members. -/
def memberTokens : List (String × Value) → List (List Token)
  | [] => []
  | (key, value) :: rest => (.string (some key) :: .colon :: value.tokens) :: memberTokens rest

end

/-- A colon, whatever blank follows it, is one token. -/
theorem scans_member {colon : String} (hcolon : Scans colon.toList [.colon]) (key : String)
    {text : String} {ts : List Token} (h : Scans text.toList ts) :
    Scans (quoted key ++ colon ++ text).toList (.string (some key) :: .colon :: ts) := by
  rw [String.toList_append, String.toList_append]
  exact ((scans_quoted key).append hcolon).append h

/-- Parts between brackets. -/
theorem scans_enclosed {opening closing : String} {first last : Token}
    (hopening : Scans opening.toList [first]) (hclosing : Scans closing.toList [last])
    {text : String} {ts : List Token} (h : Scans text.toList ts) :
    Scans (opening ++ text ++ closing).toList (first :: (ts ++ [last])) := by
  rw [String.toList_append, String.toList_append]
  exact (hopening.append h).append hclosing

mutual

/-- **THE COMPACT TEXT OF A VALUE IS CUT INTO ITS TOKENS.** -/
theorem scans_compact : ∀ value : Value, Scans value.compact.toList value.tokens
  | .string text => by
    unfold compact tokens
    exact scans_quoted text
  | .array items => by
    unfold compact tokens
    exact scans_enclosed scans_openArray scans_closeArray
      ((scansAll_compactItems items).intercalate scans_comma)
  | .object members => by
    unfold compact tokens
    exact scans_enclosed scans_openObject scans_closeObject
      ((scansAll_compactMembers members).intercalate scans_comma)

theorem scansAll_compactItems : ∀ items : List Value,
    ScansAll (compactItems items) (itemTokens items)
  | [] => .nil
  | item :: rest => .cons (scans_compact item) (scansAll_compactItems rest)

theorem scansAll_compactMembers : ∀ members : List (String × Value),
    ScansAll (compactMembers members) (memberTokens members)
  | [] => .nil
  | (key, value) :: rest =>
    .cons (scans_member scans_colon key (scans_compact value))
      (scansAll_compactMembers rest)

end

/-- Parts on lines of their own are cut like parts without blanks. -/
theorem scans_block {opening closing : String} {first last : Token}
    (hopening : Scans opening.toList [first]) (hclosing : Scans closing.toList [last])
    (level : Nat) {parts : List String} {tss : List (List Token)} (h : ScansAll parts tss) :
    Scans (block level opening closing parts).toList
      (first :: ([Token.comma].intercalate tss ++ [last])) := by
  have hseparator : Scans ("," ++ newLine (level + 1)).toList [.comma] := by
    rw [String.toList_append]
    exact scans_comma.append_none (scans_newLine (level + 1))
  have hparts := h.intercalate hseparator
  cases h with
  | nil =>
    unfold block
    rw [List.isEmpty_nil, if_pos rfl, String.toList_append]
    exact hopening.append hclosing
  | cons _ _ =>
    unfold block
    rw [List.isEmpty_cons, if_neg Bool.false_ne_true, String.toList_append, String.toList_append,
      String.toList_append, String.toList_append]
    have hopened := (hopening.append_none (scans_newLine (level + 1))).append hparts
    exact (hopened.append_none (scans_newLine level)).append hclosing

mutual

/-- **THE PRETTY TEXT OF A VALUE IS CUT INTO ITS TOKENS**, at any level. -/
theorem scans_pretty : ∀ (value : Value) (level : Nat),
    Scans (value.pretty level).toList value.tokens
  | .string text, _ => by
    unfold pretty tokens
    exact scans_quoted text
  | .array items, level => by
    unfold pretty tokens
    exact scans_block scans_openArray scans_closeArray level
      (scansAll_prettyItems items (level + 1))
  | .object members, level => by
    unfold pretty tokens
    exact scans_block scans_openObject scans_closeObject level
      (scansAll_prettyMembers members (level + 1))

theorem scansAll_prettyItems : ∀ (items : List Value) (level : Nat),
    ScansAll (prettyItems level items) (itemTokens items)
  | [], _ => .nil
  | item :: rest, level => .cons (scans_pretty item level) (scansAll_prettyItems rest level)

theorem scansAll_prettyMembers : ∀ (members : List (String × Value)) (level : Nat),
    ScansAll (prettyMembers level members) (memberTokens members)
  | [], _ => .nil
  | (key, value) :: rest, level =>
    .cons (scans_member scans_spacedColon key (scans_pretty value level))
      (scansAll_prettyMembers rest level)

end

end Value

/-- Both texts of a value are nothing but its tokens. -/
theorem tokens_of_scans {text : String} {ts : List Token} (h : Scans text.toList ts) :
    tokens text.toList = ts := by
  have hall := h []
  rw [List.append_nil] at hall
  rw [hall, tokens, List.append_nil]

end MarkupShorthand.Json
