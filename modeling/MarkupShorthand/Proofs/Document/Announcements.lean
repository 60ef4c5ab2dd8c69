/-
  MarkupShorthand.Proofs.Document.Announcements
  ─────────────────────────────────────────────
  **THE LOG OF A CONVERSION TELLS THE FOREST, OR THE LINE THAT WAS REJECTED.**

      the conversion             is announced, and then the number of lines
      if a line is bad           one more record names it and what is wrong with it
      if all lines are read      a record for each line tells where its node stands
                                 in the forest, and a last one counts the roots

  The depths in the records are those that the lines ask for, half of their indents,
  whatever the level is at which a node stands in the end.
-/
import MarkupShorthand.Proofs.Document.LineByLine
import MarkupShorthand.Proofs.Forest.Announcements
import MarkupShorthand.Proofs.OutputFormat.Routes

namespace MarkupShorthand.Document

open Text Forest ElementLine

/-! ## §1. What a record tells. -/

/-- How a record names the node of a line: by its tag and by half the indent of the
line. -/
def named (node : Node) (line : SourceLine) : String :=
  "<" ++ node.tag ++ "> at depth " ++ toString (line.indent / 2)

/-- The line at a place has become this node of the forest, below the node at the place
`above`. -/
def Became (lines : List SourceLine) (forest : List Node) (place : Nat) (above : Option Nat)
    (node : Node) (line : SourceLine) : Prop :=
  (Node.placedAll none 0 forest)[place]? = some (above, node) ∧ lines[place]? = some line

/-- What the record at a place tells of the line there: that its node is a root of the
forest, or which node is the parent. -/
inductive Tells (lines : List SourceLine) (forest : List Node) (place : Nat) : LogRecord → Prop
  | root {node : Node} {line : SourceLine} (h : Became lines forest place none node line) :
      Tells lines forest place ⟨.trace, nestingTarget, named node line ++ " is a root"⟩
  | under {outer : Nat} {above : Option Nat} {node parent : Node} {line other : SourceLine}
      (h : Became lines forest place (some outer) node line)
      (hparent : Became lines forest outer above parent other) :
      Tells lines forest place
        ⟨.trace, nestingTarget, named node line ++ " goes under " ++ named parent other⟩

/-- The record of an attachment. -/
def announcement (attachment : Attachment) : LogRecord :=
  ⟨.trace, nestingTarget, attachment.message⟩

theorem message_root (node : Node) (line : SourceLine) :
    Attachment.message ⟨⟨node.tag, line.indent / 2⟩, none⟩ = named node line ++ " is a root" :=
  rfl

theorem message_under (node parent : Node) (line other : SourceLine) :
    Attachment.message ⟨⟨node.tag, line.indent / 2⟩, some ⟨parent.tag, other.indent / 2⟩⟩
      = named node line ++ " goes under " ++ named parent other := by
  have hopen : " goes under <" = " goes under " ++ "<" := rfl
  simp only [Attachment.message, named, hopen, String.append_assoc]

/-! ## §2. The records of a forest. -/

/-- The nodes that are read have no children yet. -/
theorem childless_items (elements : List ElementLine) :
    ∀ entry ∈ elements.map item, entry.1.children = [] := by
  intro entry hentry
  obtain ⟨element, -, rfl⟩ := List.mem_map.mp hentry
  rfl

/-- The forest has one node for each element. -/
theorem length_placed_items (elements : List ElementLine) :
    (Node.placedAll none 0 (nest (elements.map item))).length = elements.length := by
  have hlength := congrArg List.length (placedAll_nest (childless_items elements)).1
  rwa [List.length_map, List.length_map, List.length_map] at hlength

/-- There is one record for each element. -/
theorem length_announcements (elements : List ElementLine) :
    ((attachments (elements.map item)).map announcement).length = elements.length := by
  rw [List.length_map, attachments, length_attachmentsFrom, List.length_map]

section Read

variable {lines : List SourceLine} {elements : List ElementLine}
  (hread : List.Forall₂ (fun line element => ElementLine.read line = .ok element) lines elements)

include hread

/-- At each place of the forest stands the node of the line there, and it was read with
half the indent of the line as its depth. -/
theorem exists_became {place : Nat} (hplace : place < elements.length) :
    ∃ above node line, Became lines (nest (elements.map item)) place above node line
      ∧ (elements.map item)[place]? = some (node.stripped, line.indent / 2) := by
  have hlines : place < lines.length := hread.length_eq ▸ hplace
  obtain ⟨⟨above, node⟩, hnode⟩ : ∃ entry,
      (Node.placedAll none 0 (nest (elements.map item)))[place]? = some entry :=
    ⟨_, List.getElem?_eq_getElem (length_placed_items elements ▸ hplace)⟩
  obtain ⟨depth, hitem⟩ := item_of_placed (childless_items elements) hnode
  refine ⟨above, node, lines[place], ⟨hnode, List.getElem?_eq_getElem hlines⟩, ?_⟩
  have helement : elements[place].item = (node.stripped, depth) := by
    rw [List.getElem?_map, List.getElem?_eq_getElem hplace] at hitem
    exact Option.some.inj hitem
  have hdepth : elements[place].depth = depth := congrArg Prod.snd helement
  have hindent : lines[place].indent = 2 * elements[place].depth :=
    indent_of_read (hread.get hlines hplace)
  rw [hitem, hindent, hdepth, Nat.mul_div_cancel_left depth (by decide)]

/-- **THE RECORDS TELL THE FOREST**, each the node of its line. -/
theorem tells_announcements (place : Nat) (record : LogRecord)
    (h : ((attachments (elements.map item)).map announcement)[place]? = some record) :
    Tells lines (nest (elements.map item)) place record := by
  have hchildless := childless_items elements
  have hplace : place < elements.length :=
    length_announcements elements ▸ (List.getElem?_eq_some_iff.mp h).1
  rw [List.getElem?_map] at h
  obtain ⟨attachment, hattachment, rfl⟩ := Option.map_eq_some_iff.mp h
  obtain ⟨above, node, line, hnode, hitem⟩ := exists_became hread hplace
  have htold := attachments_getElem? hchildless hnode.1 hitem
  rw [hattachment] at htold
  cases htold
  cases above with
  | none => exact .root hnode
  | some outer =>
    -- the parent stands before the node, so there is a line for it too
    have houter : outer < elements.length :=
      (parent_lt_of_placed hchildless hnode.1).trans hplace
    obtain ⟨further, parent, other, hparent, hitem'⟩ := exists_became hread houter
    have hunder := Tells.under hnode hparent
    rw [Option.bind_some, List.getElem?_map, hitem']
    rwa [← message_under] at hunder

end Read

/-- What a record tells is told by its last words. -/
theorem Tells.saysRoot_eq {lines : List SourceLine} {forest : List Node} {place : Nat}
    {record : LogRecord} (h : Tells lines forest place record) :
    (Node.placedAll none 0 forest)[place]?.map (fun entry => entry.1.isNone)
      = some (saysRoot record.message) := by
  cases h with
  | root h =>
    rw [h.1, ← message_root, saysRoot_message]
    rfl
  | under h hparent =>
    rw [h.1, ← message_under, saysRoot_message]
    rfl

/-- **THE ROOTS ARE COUNTED RIGHT**: of records that tell the forest, those that say so
are at the places of its roots, and are as many. -/
theorem roots_of_tells {lines : List SourceLine} {forest : List Node} {records : List LogRecord}
    (hlength : records.length = (Node.placedAll none 0 forest).length)
    (h : ∀ place record, records[place]? = some record → Tells lines forest place record) :
    records.map (fun record => saysRoot record.message)
        = (Node.placedAll none 0 forest).map (fun entry => entry.1.isNone)
      ∧ records.countP (fun record => saysRoot record.message) = forest.length := by
  have hsame : records.map (fun record => saysRoot record.message)
      = (Node.placedAll none 0 forest).map (fun entry => entry.1.isNone) := by
    refine List.ext_getElem? fun place => ?_
    rw [List.getElem?_map, List.getElem?_map]
    cases hrecord : records[place]? with
    | none =>
      rw [List.getElem?_eq_none_iff, hlength] at hrecord
      rw [List.getElem?_eq_none hrecord]
      rfl
    | some record => exact (h place record hrecord).saysRoot_eq.symm
  refine ⟨hsame, ?_⟩
  calc records.countP (fun record => saysRoot record.message)
      = (records.map fun record => saysRoot record.message).countP id := by
        rw [List.countP_map]
        rfl
    _ = (Node.placedAll none 0 forest).countP fun entry => entry.1.isNone := by
        rw [hsame, List.countP_map]
        rfl
    _ = forest.length := by
        rw [List.countP_eq_length_filter, ← List.length_map Prod.snd, Node.roots_placedAll]

/-! ## §3. The log of a conversion. -/

/-- A conversion of shorthand reads the document, and reports what reading reports. -/
theorem convert_shorthand {toWord : String} {format : Format}
    (hformat : Registry.default.get toWord = .ok format) (hserializes : format.serializes = true)
    (source : String) :
    Registry.default.convert source "shortmark" toWord
      = ⟨match parse source with
          | .error error => .error (.parse error)
          | .ok forest => format.serialize forest,
        Registry.conversionRecord source "shortmark" format.name :: report source⟩ := by
  unfold Registry.convert
  rw [hformat, Registry.parse_shorthand]
  dsimp only
  rw [if_pos hserializes]
  unfold Format.shorthand Logged.map parseLogged
  dsimp only
  cases parse source <;> rfl

/-- **THE LOG TELLS THE FOREST, OR THE LINE THAT WAS REJECTED.**  Whatever a source of
shorthand is converted to, the conversion is announced first and the number of its
lines, those that are not blank, second.  If the source is not read, one more record
follows, with the number and the error that the conversion ends with.  If it is read, a
record for each line follows, in order, and then the number of roots: each record names
the node of its line and says that it is a root of the forest or names the node that is
its parent there, with tags and with half the indents of the lines for depths; and
those that speak of a root are at the places of the roots. -/
theorem log_of_conversion {toWord : String} {format : Format}
    (hformat : Registry.default.get toWord = .ok format) (hserializes : format.serializes = true)
    (source : String) :
    let lines := Source.lines source
    let parsed := (Registry.default.parse source "shortmark").value
    let converted := Registry.default.convert source "shortmark" toWord
    let debug (message : String) : LogRecord := ⟨.debug, documentTarget, message⟩
    lines.length = (Source.pieces source).countP (fun piece => !piece.all isBlank)
      ∧ ∃ records, converted.records
          = Registry.conversionRecord source "shortmark" format.name
            :: debug ("normalized source into " ++ toString lines.length ++ " non-blank lines")
            :: records
        ∧ ((∃ error, parsed = .error (.parse error) ∧ converted.value = .error (.parse error)
            ∧ records
              = [debug ("line " ++ toString error.number ++ " rejected: " ++ error.message)])
          ∨ ∃ forest traces, parsed = .ok forest ∧ converted.value = format.serialize forest
            ∧ records
              = traces ++ [debug ("built forest with " ++ toString forest.length ++ " roots")]
            ∧ traces.length = lines.length
            ∧ (∀ place record, traces[place]? = some record → Tells lines forest place record)
            ∧ traces.map (fun record => saysRoot record.message)
              = (Node.placedAll none 0 forest).map (fun entry => entry.1.isNone)
            ∧ traces.countP (fun record => saysRoot record.message) = forest.length) := by
  intro lines parsed converted debug
  have hparsed : parsed = (parse source).mapError .parse := Registry.value_parse_shorthand source
  have hconverted := convert_shorthand hformat hserializes source
  have hcount : lines.length = (Source.pieces source).countP fun piece => !piece.all isBlank := by
    show (Source.lines source).length = _
    rw [Source.lines_eq_linesFrom, Source.length_linesFrom]
  refine ⟨hcount, _, congrArg Logged.records hconverted, ?_⟩
  cases hread : readLines lines with
  | error error =>
    have hparse : parse source = .error error := parse_eq_error_iff.mpr hread
    left
    refine ⟨error, ?_, ?_, ?_⟩
    · rw [hparsed, hparse]
      rfl
    · rw [congrArg Logged.value hconverted, hparse]
    · rfl
  | ok items =>
    have hparse : parse source = .ok (nest items) := parse_eq_ok_iff.mpr ⟨items, hread, rfl⟩
    obtain ⟨elements, helements, rfl⟩ := readLines_eq_ok_iff.mp hread
    right
    have htells := tells_announcements helements
    have hlength := length_announcements elements
    refine ⟨nest (elements.map item), (attachments (elements.map item)).map announcement,
      ?_, ?_, rfl, ?_, htells, ?_⟩
    · rw [hparsed, hparse]
      rfl
    · rw [congrArg Logged.value hconverted, hparse]
    · rw [hlength, helements.length_eq]
    · exact roots_of_tells (hlength.trans (length_placed_items elements).symm) htells

/-- A document that begins indented, jumps by two levels and comes back to the level in
between; and one with a bad second line. -/
theorem log_of_conversion_after_jump :
    let source := "  <a>\n<b>\n\n    <c>\n  <d>"
    Registry.default.get "html" = .ok .markup ∧ Format.markup.serializes = true
      ∧ (∃ traces, (Registry.default.convert source "shortmark" "html").records
          = Registry.conversionRecord source "shortmark" "markup"
            :: ⟨.debug, documentTarget, "normalized source into 4 non-blank lines"⟩
            :: (traces ++ [⟨.debug, documentTarget, "built forest with 2 roots"⟩])
        ∧ traces.map (fun record => saysRoot record.message) = [true, true, false, false]
        ∧ ∀ record, traces[2]? = some record →
          record.message = "<c> at depth 2 goes under <b> at depth 0")
      ∧ (Registry.default.convert "<p>\n <b>" "shortmark" "html").records
        = [Registry.conversionRecord "<p>\n <b>" "shortmark" "markup",
          ⟨.debug, documentTarget, "normalized source into 2 non-blank lines"⟩,
          ⟨.debug, documentTarget,
            "line 2 rejected: Invalid indentation (use 2 spaces per level) on line 2: \" <b>\""⟩] := by
  intro source
  have hget : Registry.default.get "html" = .ok .markup :=
    Registry.get_default_of_mem_words (show "html" ∈ OutputFormat.markup.words by decide)
  have hparse : parse source
      = .ok [{ tag := "a" }, { tag := "b", children := [{ tag := "c" }, { tag := "d" }] }] := by
    decide +kernel
  have hlines : Source.lines source = [⟨1, "  <a>"⟩, ⟨2, "<b>"⟩, ⟨4, "    <c>"⟩, ⟨5, "  <d>"⟩] := by
    decide +kernel
  have hbad : parse "<p>\n <b>" = .error ⟨.indent, 2, " <b>"⟩ := by
    decide +kernel
  refine ⟨hget, rfl, ?_, ?_⟩
  · obtain ⟨-, records, hrecords, ⟨error, herror, -⟩ | ⟨forest, traces, hforest, -, rfl, -, htells,
      hroots, -⟩⟩ := log_of_conversion hget rfl source
    · rw [Registry.value_parse_shorthand, hparse] at herror
      cases herror
    · rw [Registry.value_parse_shorthand, hparse] at hforest
      cases hforest
      rw [hlines] at hrecords htells
      refine ⟨traces, hrecords, hroots, fun record hrecord => ?_⟩
      have htold := htells 2 record hrecord
      cases htold with
      | root h => cases h.1
      | under h hparent =>
        cases h.1
        cases h.2
        cases hparent.1
        cases hparent.2
        decide +kernel
  · obtain ⟨-, records, hrecords, ⟨error, herror, -, rfl⟩ | ⟨forest, traces, hforest, -⟩⟩ :=
      log_of_conversion hget rfl "<p>\n <b>"
    · rw [Registry.value_parse_shorthand, hbad] at herror
      cases herror
      rw [hrecords]
      decide +kernel
    · rw [Registry.value_parse_shorthand, hbad] at hforest
      cases hforest

end MarkupShorthand.Document
