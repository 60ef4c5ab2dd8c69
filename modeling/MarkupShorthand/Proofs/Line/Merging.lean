/-
  MarkupShorthand.Proofs.Line.Merging
  ───────────────────────────────────
  **THE ATTRIBUTES OF A LINE: THE LAST BRACKET DECIDES, ELSE THE MARKS AND THE
  WORD, IN THE ORDER OF FIRST MENTION.**

  The word and the marks are a run of writes to the attributes, and the pairs in
  brackets are written over what it leaves.  The run sets nothing but the id and
  adds every class word that the line has:

      class   the last pair for it, else the class words with spaces between
      id      the last pair for it, else the last id mark
      others  the last pair for it

  No word of a line is empty, so a space stands between any two of them.
-/
import MarkupShorthand.Proofs.Attributes
import MarkupShorthand.Proofs.Line.Expressible

namespace MarkupShorthand

open Text Attributes OrderedMap

/-! ## §1. Marks as writes. -/

namespace Mark

/-- The attribute that a mark is about. -/
def key : Mark → String
  | .id _ => idKey
  | .className _ => classKey

/-- The name in an id mark. -/
def id? : Mark → Option String
  | .id name => some name
  | .className _ => none

/-- The name in a class mark. -/
def className? : Mark → Option String
  | .id _ => none
  | .className name => some name

/-- What a mark writes. -/
def write : Mark → Write
  | .id name => .set idKey name
  | .className name => .addClass name

theorem applyTo_write (attrs : Attributes) (mark : Mark) :
    mark.write.applyTo attrs = ElementLine.addMark attrs mark := by
  cases mark <;> rfl

theorem key_write (mark : Mark) : mark.write.key = mark.key := by
  cases mark <;> rfl

theorem word?_write (mark : Mark) : mark.write.word? = mark.className? := by
  cases mark <;> rfl

theorem valueAt?_write_id (mark : Mark) : mark.write.valueAt? idKey = mark.id? := by
  cases mark <;> rfl

/-- A mark sets nothing but the id. -/
theorem valueAt?_write {key : String} (h : key ≠ idKey) (mark : Mark) :
    mark.write.valueAt? key = none := by
  cases mark with
  | id name => exact if_neg h.symm
  | className name => rfl

end Mark

namespace ElementLine

/-! ## §2. What a line says about attributes. -/

/-- The class words: the word, then the names of the class marks. -/
def classWords (line : ElementLine) : List String :=
  line.word.toList ++ line.tokens.filterMap Mark.className?

/-- The names of the id marks. -/
def idNames (line : ElementLine) : List String :=
  line.tokens.filterMap Mark.id?

/-- The attributes in the order in which the line mentions them: the class for the
word, what the marks are about, the keys of the pairs. -/
def mentions (line : ElementLine) : List String :=
  line.word.toList.map (fun _ => classKey) ++ line.tokens.map Mark.key
    ++ line.pairs.map Prod.fst

/-- What the word and the marks write. -/
def shorthand (line : ElementLine) : List Write :=
  line.word.toList.map Write.addClass ++ line.tokens.map Mark.write

/-! ## §3. The word and the marks. -/

/-- The pairs are written over what the word and the marks leave. -/
theorem attributes_eq (line : ElementLine) :
    line.attributes = (written line.shorthand).setAll line.pairs := by
  have hmarks : ∀ (tokens : List Mark) (attrs : Attributes),
      (tokens.map Mark.write).foldl Write.applyTo attrs = tokens.foldl addMark attrs := by
    intro tokens attrs
    rw [List.foldl_map]
    exact congrArg (fun step => tokens.foldl step attrs) (funext₂ Mark.applyTo_write)
  unfold attributes written shorthand
  rw [List.foldl_append, hmarks]
  cases line.word <;> rfl

/-- A pair decides, or else the word and the marks do. -/
theorem get?_attributes (line : ElementLine) (key : String) :
    line.attributes.get? key
      = (valuesAt key line.pairs).getLast?.or ((written line.shorthand).get? key) := by
  rw [attributes_eq, get?_setAll]

theorem keys_shorthand (line : ElementLine) :
    line.shorthand.map Write.key
      = line.word.toList.map (fun _ => classKey) ++ line.tokens.map Mark.key := by
  unfold shorthand
  rw [List.map_append, List.map_map, List.map_map]
  congr 1
  exact List.map_congr_left fun mark _ => mark.key_write

/-- Neither the word nor a mark sets anything but the id. -/
theorem valueAt?_shorthand {key : String} (h : key ≠ idKey) (line : ElementLine) :
    ∀ write ∈ line.shorthand, write.valueAt? key = none := by
  intro write hwrite
  rcases List.mem_append.mp hwrite with hwrite | hwrite
  · obtain ⟨word, -, rfl⟩ := List.mem_map.mp hwrite
    rfl
  · obtain ⟨mark, -, rfl⟩ := List.mem_map.mp hwrite
    exact Mark.valueAt?_write h mark

theorem lastSet?_id_shorthand (line : ElementLine) :
    lastSet? idKey line.shorthand = line.idNames.getLast? := by
  have hwords : (line.word.toList.map Write.addClass).filterMap (Write.valueAt? idKey) = [] := by
    cases line.word <;> rfl
  unfold lastSet? shorthand idNames
  rw [List.filterMap_append, hwords, List.filterMap_map, List.nil_append]
  exact congrArg (fun name? => (line.tokens.filterMap name?).getLast?)
    (funext Mark.valueAt?_write_id)

theorem wordsSinceSet_shorthand (line : ElementLine) :
    wordsSinceSet line.shorthand = line.classWords := by
  have hwords : (line.word.toList.map Write.addClass).filterMap Write.word?
      = line.word.toList := by
    cases line.word <;> rfl
  rw [wordsSinceSet_of_no_set (line.valueAt?_shorthand (by decide))]
  unfold shorthand classWords
  rw [List.filterMap_append, hwords, List.filterMap_map]
  exact congrArg (fun word? => line.word.toList ++ line.tokens.filterMap word?)
    (funext Mark.word?_write)

/-! ## §4. The whole line. -/

/-- A class mark is written with its name behind the sigil. -/
theorem name_of_className?_mark {part : MarkPart} {name : String}
    (h : part.mark.className? = some name) : name = .ofList part.name := by
  unfold MarkPart.mark Mark.ofSigil at h
  split at h
  · cases h
  · exact (Option.some.inj h).symm

/-- A line that is read has no empty class word. -/
theorem empty_not_mem_classWords (parts : LineParts) (number : Nat) :
    "" ∉ (parts.element number).classWords := by
  intro hmem
  unfold classWords at hmem
  rw [parts.tokens_element] at hmem
  rcases List.mem_append.mp hmem with hword | hmark
  · obtain ⟨word, -, hname⟩ := Option.map_eq_some_iff.mp (Option.mem_toList.mp hword)
    exact word.name_ok.ofList_ne hname
  · obtain ⟨mark, hmarks, hname⟩ := List.mem_filterMap.mp hmark
    obtain ⟨part, -, rfl⟩ := List.mem_map.mp hmarks
    exact part.name_ok.ofList_ne (name_of_className?_mark hname).symm

/-- **THE ATTRIBUTES OF A LINE.**  Of any line that is read, the class is the last
value that a pair gives it, else the class words with single spaces between them, if
there are any; the id is the last value that a pair gives it, else the name of the
last id mark; any other attribute is the last value that a pair gives it.  The names
stand in the order in which the line first mentions them.  Word, marks and pairs are
those in the parts of the line, and the node has a style block or a text exactly if
the line has one, also an empty one. -/
theorem node_merged {line : SourceLine} {element : ElementLine}
    (h : ElementLine.read line = .ok element) :
    element.node.class?
        = (valuesAt classKey element.pairs).getLast?.or
            (if element.classWords = [] then none else some (" ".intercalate element.classWords))
      ∧ element.node.id?
          = (valuesAt idKey element.pairs).getLast?.or element.idNames.getLast?
      ∧ (∀ key, key ≠ classKey → key ≠ idKey →
          element.node.attrs.get? key = (valuesAt key element.pairs).getLast?)
      ∧ element.node.attrs.keys = element.mentions.eraseDups
      ∧ ∃ parts : LineParts, parts.chars = line.text.toList
          ∧ element.word = parts.word.map (fun word => .ofList word.name)
          ∧ element.tokens = parts.marks.map MarkPart.mark
          ∧ element.pairs = (parts.brackets.map BracketPart.content).filterMap pair?
          ∧ element.node.styles = parts.style.map (fun style => Styles.ofBlock (.ofList style.body))
          ∧ element.node.text = parts.text.map (fun text => .ofList text.content) := by
  obtain ⟨number, text⟩ := line
  obtain ⟨parts, hparts, -, rfl⟩ := parts_of_read h
  have hnoClass := (parts.element number).valueAt?_shorthand (show classKey ≠ idKey by decide)
  refine ⟨?_, ?_, ?_, ?_, parts, hparts, rfl, parts.tokens_element number,
    parts.pairs_element number, ?_, rfl⟩
  · show (parts.element number).attributes.get? classKey = _
    rw [get?_attributes, get?_written_class, lastSet?_of_no_set hnoClass, wordsSinceSet_shorthand,
      withWords_none_of_not_mem (empty_not_mem_classWords parts number)]
  · show (parts.element number).attributes.get? idKey = _
    rw [get?_attributes, get?_written (by decide), lastSet?_id_shorthand]
  · intro key hclass hid
    show (parts.element number).attributes.get? key = _
    rw [get?_attributes, get?_written hclass, lastSet?_of_no_set (valueAt?_shorthand hid _),
      Option.or_none]
  · show (parts.element number).attributes.keys = _
    rw [attributes_eq, keys_setAll (keys_written _), keys_shorthand]
    rfl
  · show (parts.style.map _).map Styles.ofBlock = _
    rw [Option.map_map]
    rfl

/-- A line with an id in marks and in brackets, a bracket that is no pair, a key that
is given twice, an empty text and a style block without declarations. -/
theorem node_merged_over_repetitions :
    let line : SourceLine := ⟨7, "  <a> w#x.b#y[src=1][t] [id=z][src=2] = \"\" :\x7b;\x7d"⟩
    ∃ element, ElementLine.read line = .ok element
      ∧ element.node.class? = some "w b"
      ∧ element.node.id? = some "z"
      ∧ element.node.attrs.get? "src" = some "2"
      ∧ element.node.attrs.get? "t" = none
      ∧ element.node.attrs.keys = ["class", "id", "src"]
      ∧ ∃ parts : LineParts, parts.chars = line.text.toList
          ∧ element.node.styles = parts.style.map (fun style => Styles.ofBlock (.ofList style.body))
          ∧ element.node.text = parts.text.map (fun text => .ofList text.content) := by
  intro line
  let element : ElementLine :=
    ⟨7, 2, "a", some "w", "#x.b#y", "[src=1][t] [id=z][src=2]", some "", some ";"⟩
  have hread : ElementLine.read line = .ok element := by decide +kernel
  obtain ⟨hclass, hid, hother, hkeys, parts, hparts, -, -, -, hstyles, htext⟩ :=
    node_merged hread
  exact ⟨element, hread, hclass.trans (by decide +kernel), hid.trans (by decide +kernel),
    (hother "src" (by decide) (by decide)).trans (by decide +kernel),
    (hother "t" (by decide) (by decide)).trans (by decide +kernel),
    hkeys.trans (by decide +kernel), parts, hparts, hstyles, htext⟩

end ElementLine

end MarkupShorthand
