/-
  MarkupShorthand.Toml.Document
  ─────────────────────────────
  **A TOML DOCUMENT IS A TABLE THAT ITS LINES FILL, AND NO LINE MAY SAY AGAIN
  WHAT ANOTHER SAID.**

  A header opens a table, or a further row of an array of tables; a line with a
  key and a value adds an entry below the last header.  Tables on the way to a
  dotted key come into being where they are missing.  How a table came into
  being decides who may still add to it:

      opened    by a header or a brace of its own — under that header only
      implied   by a longer header                — may be opened once
      dotted    by dotted keys                    — further dotted keys only

  `read` gives the entries of the whole document, or nothing if it is not TOML.
-/
import MarkupShorthand.OrderedMap
import MarkupShorthand.Toml.Scalar
import MarkupShorthand.Toml.Text

namespace MarkupShorthand.Toml

/-! ## §1. Tables under construction. -/

/-- How a table came into being. -/
inductive Standing where
  /-- By a header, a row header or a brace of its own. -/
  | opened
  /-- By a header that leads through it. -/
  | implied
  /-- By a dotted key that leads through it. -/
  | dotted
  deriving DecidableEq, Inhabited

/-- What stands at a key while a document is read. -/
inductive Item where
  /-- A value that is complete. -/
  | value (value : Value)
  /-- A table that may still grow. -/
  | table (standing : Standing) (entries : List (String × Item))
  /-- An array of tables: the last row, which may still grow, and those before it,
  the nearest first. -/
  | rows (latest : List (String × Item)) (earlier : List (List (String × Item)))
  deriving Inhabited

/-- The entries of a table under construction. -/
abbrev Entries := List (String × Item)

mutual

/-- The value that an item has become. -/
def Item.complete : Item → Value
  | .value value => value
  | .table _ entries => .table (completeEntries entries)
  | .rows latest earlier =>
    .array (.table (completeEntries latest) :: completeRows earlier).reverse

/-- The entries that a table has come to. -/
def completeEntries : List (String × Item) → List (String × Value)
  | [] => []
  | (key, item) :: rest => (key, item.complete) :: completeEntries rest

/-- The tables that the rows of an array have become. -/
def completeRows : List (List (String × Item)) → List Value
  | [] => []
  | row :: rest => .table (completeEntries row) :: completeRows rest

end

/-- Changes what stands at a key, which may be nothing. -/
def change (key : String) (f : Option Item → Option Item) (entries : Entries) :
    Option Entries :=
  (f (readEntry key entries)).map fun item => writeEntry key item entries

/-- Changes the table that a path leads to.  Tables that are missing on the way
come into being with the standing `made`. -/
def changeAt (made : Standing) (f : Standing → Entries → Option Entries) :
    List String → Standing → Entries → Option Entries
  | [], standing, entries => f standing entries
  | key :: path, _, entries =>
    change key
      (fun
        | none => (changeAt made f path made []).map (.table made)
        | some (.value _) => none
        | some (.table standing inner) =>
          if made = .dotted ∧ standing = .opened then none
          else (changeAt made f path standing inner).map (.table standing)
        | some (.rows latest earlier) =>
          (changeAt made f path .opened latest).map (.rows · earlier))
      entries

/-- A key: the keys that lead to a table, and a name in it. -/
structure DottedKey where
  /-- The keys that lead to the table. -/
  path : List String
  /-- The name in the table. -/
  name : String
  deriving DecidableEq, Inhabited

/-- Adds an entry to a table.  A table of dotted keys takes no plain key, and no
other table takes a dotted key that ends in it. -/
def addEntry (key : DottedKey) (value : Value) : Standing → Entries → Option Entries :=
  changeAt .dotted
    (fun standing entries =>
      if standing = .dotted ↔ key.path = [] then none
      else
        change key.name (fun | none => some (.value value) | some _ => none) entries)
    key.path

/-- Adds an entry below a header. -/
def addBelow (header : List String) (key : DottedKey) (value : Value) (entries : Entries) :
    Option Entries :=
  changeAt .implied (addEntry key value) header .opened entries

/-- Opens the table of a header. -/
def openTable (header : DottedKey) (entries : Entries) : Option Entries :=
  changeAt .implied
    (fun _ =>
      change header.name fun
        | none => some (.table .opened [])
        | some (.table .implied inner) => some (.table .opened inner)
        | some _ => none)
    header.path .opened entries

/-- Opens a further row of the array of tables of a header. -/
def openRow (header : DottedKey) (entries : Entries) : Option Entries :=
  changeAt .implied
    (fun _ =>
      change header.name fun
        | none => some (.rows [] [])
        | some (.rows latest earlier) => some (.rows [] (latest :: earlier))
        | some _ => none)
    header.path .opened entries

/-! ## §2. Keys, comments and ends of lines. -/

/-- How deep arrays, inline tables and keys may be nested. -/
def nestingLimit : Nat := 79

/-- What a key without quotes is made of. -/
def isKeyChar (c : Char) : Bool :=
  c.isAlphanum || c == '_' || c == '-'

/-- Cuts off one part of a key. -/
def cutKeyPart (cs : List Char) : Option (String × List Char) :=
  let word := cs.takeWhile isKeyChar
  if word.isEmpty then cutShortString cs
  else some (.ofList word, cs.dropWhile isKeyChar)

/-- Cuts off a key with the spaces around its parts; the number bounds the
parts. -/
def cutKeyParts : Nat → List Char → Option (List String × String × List Char)
  | 0, _ => none
  | parts + 1, cs =>
    match cutKeyPart (cs.dropWhile isSpace) with
    | none => none
    | some (part, rest) =>
      match rest.dropWhile isSpace with
      | '.' :: behind =>
        (cutKeyParts parts behind).map fun (path, name, after) => (part :: path, name, after)
      | behind => some ([], part, behind)

/-- Cuts off a key. -/
def cutKey (cs : List Char) : Option (DottedKey × List Char) :=
  (cutKeyParts nestingLimit cs).map fun (path, name, rest) => (⟨path, name⟩, rest)

/-- Drops a comment up to the end of its line. -/
def dropComment : List Char → List Char
  | '#' :: rest => rest.dropWhile isTextChar
  | cs => cs

/-- Cuts off the end of a line: spaces, a comment, and a line break unless the
text ends. -/
def cutLineEnd (cs : List Char) : Option (List Char) :=
  match dropComment (cs.dropWhile isSpace) with
  | [] => some []
  | rest => cutNewline rest

/-- Drops spaces, comments and line breaks between the items of an array; the
number bounds the lines. -/
def skipLines : Nat → List Char → List Char
  | 0, cs => cs
  | lines + 1, cs =>
    match cutNewline (dropComment (cs.dropWhile isSpace)) with
    | some rest => skipLines lines rest
    | none => cs.dropWhile isSpace

/-! ## §3. Values. -/

mutual

/-- Cuts off a value; `depth` is how much deeper it may be nested, `steps` bounds
the work. -/
def cutValue (depth : Nat) : Nat → List Char → Option (Value × List Char)
  | 0, _ => none
  | steps + 1, cs =>
    match cs with
    | '[' :: rest =>
      if depth = 0 then none
      else (cutItems (depth - 1) steps rest).map fun (items, after) => (.array items, after)
    | '{' :: rest =>
      if depth = 0 then none
      else
        match rest.dropWhile isSpace with
        | '}' :: after => some (.table [], after)
        | _ =>
          (cutPairs (depth - 1) steps [] rest).map fun (entries, after) =>
            (.table (completeEntries entries), after)
    | '"' :: _ => (cutString cs).map fun (text, after) => (.string text, after)
    | '\'' :: _ => (cutString cs).map fun (text, after) => (.string text, after)
    | _ =>
      let (word, after) := cutWord cs
      (scalarOf? word).map fun value => (value, after)

/-- Cuts off the items of an array and the bracket behind them. -/
def cutItems (depth : Nat) : Nat → List Char → Option (List Value × List Char)
  | 0, _ => none
  | steps + 1, cs =>
    match skipLines (cs.length + 1) cs with
    | ']' :: after => some ([], after)
    | start =>
      match cutValue depth steps start with
      | none => none
      | some (value, rest) =>
        match skipLines (rest.length + 1) rest with
        | ',' :: behind =>
          (cutItems depth steps behind).map fun (items, after) => (value :: items, after)
        | ']' :: after => some ([value], after)
        | _ => none

/-- Cuts off the entries of an inline table and the brace behind them, adding
them to those before. -/
def cutPairs (depth : Nat) : Nat → Entries → List Char → Option (Entries × List Char)
  | 0, _, _ => none
  | steps + 1, entries, cs =>
    match cutKey cs with
    | some (key, '=' :: start) =>
      match cutValue depth steps (start.dropWhile isSpace) with
      | none => none
      | some (value, rest) =>
        match addEntry key value .opened entries with
        | none => none
        | some grown =>
          match rest.dropWhile isSpace with
          | ',' :: behind => cutPairs depth steps grown behind
          | '}' :: after => some (grown, after)
          | _ => none
    | _ => none

end

/-! ## §4. Documents. -/

/-- A line that is not blank. -/
inductive Line where
  /-- A header that opens a table. -/
  | header (key : DottedKey)
  /-- A header that opens a row of an array of tables. -/
  | rowHeader (key : DottedKey)
  /-- A key with its value. -/
  | entry (key : DottedKey) (value : Value)

/-- Cuts off what a line says, up to the end of the line. -/
def cutLine (cs : List Char) : Option (Line × List Char) :=
  match cs with
  | '[' :: '[' :: rest =>
    match cutKey rest with
    | some (key, ']' :: ']' :: after) => some (.rowHeader key, after)
    | _ => none
  | '[' :: rest =>
    match cutKey rest with
    | some (key, ']' :: after) => some (.header key, after)
    | _ => none
  | _ =>
    match cutKey cs with
    | some (key, '=' :: rest) =>
      let start := rest.dropWhile isSpace
      (cutValue nestingLimit (2 * start.length + 2) start).map fun (value, after) =>
        (.entry key value, after)
    | _ => none

/-- The document after a line, and the header that further lines are below. -/
def addLine (header : List String) (entries : Entries) : Line → Option (List String × Entries)
  | .header key => (openTable key entries).map fun grown => (key.path ++ [key.name], grown)
  | .rowHeader key => (openRow key entries).map fun grown => (key.path ++ [key.name], grown)
  | .entry key value => (addBelow header key value entries).map fun grown => (header, grown)

/-- Reads lines to the end of the text; the number bounds them. -/
def readLines : Nat → List String → Entries → List Char → Option Entries
  | 0, _, _, _ => none
  | lines + 1, header, entries, cs =>
    match cs.dropWhile isSpace with
    | [] => some entries
    | start =>
      match cutLineEnd start with
      | some rest => readLines lines header entries rest
      | none =>
        match cutLine start with
        | none => none
        | some (line, behind) =>
          match cutLineEnd behind, addLine header entries line with
          | some rest, some (below, grown) => readLines lines below grown rest
          | _, _ => none

/-- The text without a byte order mark in front. -/
def withoutMark : List Char → List Char
  | '\ufeff' :: rest => rest
  | cs => cs

/-- The entries of a TOML document, if it is one. -/
def read (text : String) : Option (List (String × Value)) :=
  let cs := withoutMark text.toList
  (readLines (cs.length + 1) [] [] cs).map completeEntries

end MarkupShorthand.Toml
