/-
  MarkupShorthand.Proofs.Outline
  ──────────────────────────────
  **AN OUTLINE HAS THE LINES OF THE SOURCE IN THEIR PLACES, AND ITS INDENTS GIVE THE
  TREE.**

      a label             stands on one line, begins with the tag, and no space is
                          in front of it
      an outline          has one line for each node, parents before children
      its indents         are the levels of the tree, whatever those of the source
                          were

  So a line of an outline says where its node stands (`Outline.item`), and nesting
  what the lines say gives the forest again, as far as tags go (`Node.bareAll`).
-/
import MarkupShorthand.Format.BuiltIn
import MarkupShorthand.Proofs.Document.Rendering

namespace MarkupShorthand

open Text

/-! ## §1. Forests of tags. -/

namespace Node

mutual

/-- The tags of a node and of what is below it, and nothing else. -/
def bare : Node → Node
  | ⟨tag, _, _, _, children⟩ => { tag, children := bareAll children }

/-- ... of a forest. -/
def bareAll : List Node → List Node
  | [] => []
  | node :: rest => node.bare :: bareAll rest

end

theorem stripped_bare (node : Node) : node.bare.stripped = { tag := node.tag } := by
  obtain ⟨tag, attrs, styles, text, children⟩ := node
  rw [bare]
  rfl

mutual

/-- **STEP**: the nodes that are left stand where they stood. -/
theorem levels_bare :
    ∀ (node : Node) (level : Nat),
      node.bare.levels level = (node.levels level).map fun entry => (entry.1, entry.2.bare)
  | ⟨tag, attrs, styles, text, children⟩, level => by
    have hchildren := levelsAll_bare children (level + 1)
    rw [bare, levels, levels, List.map_cons, hchildren, bare]

/-- **RUN**: ... in a forest. -/
theorem levelsAll_bare :
    ∀ (nodes : List Node) (level : Nat),
      levelsAll level (bareAll nodes)
        = (levelsAll level nodes).map fun entry => (entry.1, entry.2.bare)
  | [], _ => rfl
  | node :: rest, level => by
    rw [bareAll, levelsAll, levelsAll, List.map_append, levels_bare node level,
      levelsAll_bare rest level]

end

end Node

/-- The tags of a forest, at their levels, nest to its forest of tags. -/
theorem Forest.nest_tags (forest : List Node) :
    nest ((Node.levelsAll 0 forest).map fun entry => ({ tag := entry.2.tag }, entry.1))
      = Node.bareAll forest := by
  -- flattened, the forest of tags is the tags with their levels
  have hflat : (Node.levelsAll 0 (Node.bareAll forest)).map flat
      = (Node.levelsAll 0 forest).map fun entry => ({ tag := entry.2.tag }, entry.1) := by
    rw [Node.levelsAll_bare, List.map_map]
    refine List.map_congr_left fun entry _ => ?_
    exact congrArg (fun node => (node, entry.1)) entry.2.stripped_bare
  rw [← hflat, nest_flattened]

namespace Outline

/-! ## §2. Labels. -/

/-- A label begins with the tag. -/
theorem exists_label (node : Node) : ∃ more, label node = "<" ++ node.tag ++ ">" ++ more := by
  unfold label
  simp only [String.append_assoc]
  exact ⟨_, rfl⟩

theorem newline_not_mem_preview {text : String} (h : '\n' ∉ text.toList) :
    '\n' ∉ (preview text).toList := by
  unfold preview
  dsimp only
  split
  · rw [String.toList_ofList, List.mem_append, not_or]
    exact ⟨fun hmem => h (List.mem_of_mem_take hmem), by decide⟩
  · exact h

/-- The value of an attribute holds no line feed. -/
theorem newline_not_mem_value {node : Node} (h : node.NewlineFree) {key value : String}
    (hvalue : node.attrs.get? key = some value) : '\n' ∉ value.toList :=
  (h.attrs _ (OrderedMap.mem_entries_of_get? hvalue)).2

/-- The class words hold none, wherever the class has blanks. -/
theorem newline_not_mem_classWords {node : Node} (h : node.NewlineFree) :
    ∀ word ∈ words (node.class?.getD "").toList, '\n' ∉ word := by
  intro word hword hmem
  have hclass := mem_of_mem_words hword hmem
  cases hvalue : node.class? with
  | none =>
    rw [hvalue] at hclass
    cases hclass
  | some value =>
    rw [hvalue] at hclass
    exact newline_not_mem_value h hvalue hclass

theorem newline_not_mem_otherNames {node : Node} (h : node.NewlineFree) :
    ∀ name ∈ otherNames node, '\n' ∉ name.toList := by
  intro name hname
  obtain ⟨hkey, -⟩ := List.mem_filter.mp hname
  obtain ⟨entry, hentry, rfl⟩ := List.mem_map.mp hkey
  exact (h.attrs entry hentry).1

theorem newline_not_mem_toString (n : Nat) : '\n' ∉ (toString n).toList :=
  fun hmem => absurd (isDigit_of_mem_toString hmem) (by decide)

theorem newline_not_mem_append {text more : String} (h : '\n' ∉ text.toList)
    (hmore : '\n' ∉ more.toList) : '\n' ∉ (text ++ more).toList := by
  rw [String.toList_append, List.mem_append, not_or]
  exact ⟨h, hmore⟩

/-- **A LABEL STANDS ON ONE LINE** if nothing in the node holds a line feed. -/
theorem newline_not_mem_label {node : Node} (h : node.NewlineFree) :
    '\n' ∉ (label node).toList := by
  unfold label
  -- each part is absent or stands between signs of its own
  refine newline_not_mem_append (newline_not_mem_append (newline_not_mem_append
    (newline_not_mem_append (newline_not_mem_append ?tag ?id) ?classWords) ?others) ?text) ?styles
  case tag =>
    exact newline_not_mem_append (newline_not_mem_append (by decide) h.tag) (by decide)
  case id =>
    split
    · decide
    · next name hname =>
      exact newline_not_mem_append (by decide) (newline_not_mem_value h hname)
  case classWords =>
    simpa [String.toList_join] using newline_not_mem_classWords h
  case others =>
    split
    · decide
    · refine newline_not_mem_append (newline_not_mem_append (by decide) ?_) (by decide)
      rw [String.toList_intercalate]
      refine not_mem_intercalate (by decide) fun name hname => ?_
      obtain ⟨other, hother, rfl⟩ := List.mem_map.mp hname
      exact newline_not_mem_otherNames h other hother
  case text =>
    split
    · decide
    · next text htext =>
      exact newline_not_mem_append (newline_not_mem_append (by decide)
        (newline_not_mem_preview (h.text text htext))) (by decide)
  case styles =>
    split
    · decide
    · exact newline_not_mem_append (newline_not_mem_append (by decide)
        (newline_not_mem_toString _)) (by decide)

/-! ## §3. Lines. -/

/-- The line of a node. -/
def row (level : Nat) (node : Node) : List Char :=
  List.replicate (2 * level) ' ' ++ (label node).toList

/-- **THE LINES OF AN OUTLINE** are one for each node, if nothing in the forest holds a
line feed. -/
theorem pieces_render {forest : List Node} (hne : forest ≠ [])
    (h : ∀ entry ∈ Node.levelsAll 0 forest, entry.2.NewlineFree) :
    Source.pieces (render forest)
      = (Node.levelsAll 0 forest).map fun entry => row entry.1 entry.2 := by
  have hrow : ∀ entry : Nat × Node,
      (indentation entry.1 ++ label entry.2).toList = row entry.1 entry.2 := by
    intro entry
    rw [String.toList_append, indentation, String.toList_ofList, row]
  -- the outline is its rows with line feeds between them
  have hrendered : render forest
      = Source.ofRows ((Node.levelsAll 0 forest).map fun entry => row entry.1 entry.2) := by
    rw [← String.toList_inj, Source.ofRows, String.toList_ofList, render, String.toList_intercalate,
      lines, List.map_map]
    exact congrArg _ (List.map_congr_left fun entry _ => hrow entry)
  rw [hrendered]
  refine Source.pieces_ofRows ?_ ?_
  · intro chars hchars
    obtain ⟨entry, hentry, rfl⟩ := List.mem_map.mp hchars
    rw [row, List.mem_append, not_or]
    exact ⟨by simp, newline_not_mem_label (h entry hentry)⟩
  · rw [Ne, List.map_eq_nil_iff]
    exact Node.levelsAll_ne_nil 0 hne

/-- What a line says about the place of its node: the tag, and the level as a half of
the spaces in front. -/
def item (row : List Char) : Node × Nat :=
  ({ tag := .ofList ((row.dropWhile (· == ' ')).tail.takeWhile (· != '>')) },
    (row.takeWhile (· == ' ')).length / indentWidth)

/-- The line of a node says its tag and its level. -/
theorem item_row (level : Nat) {node : Node} (htag : '>' ∉ node.tag.toList) :
    item (row level node) = ({ tag := node.tag }, level) := by
  obtain ⟨more, hmore⟩ := exists_label node
  have hlabel : (label node).toList = '<' :: (node.tag.toList ++ '>' :: more.toList) := by
    rw [hmore]
    simp
  have hspaces : ∀ c ∈ List.replicate (2 * level) ' ', (c == ' ') = true := by
    intro c hc
    rw [List.eq_of_mem_replicate hc]
    rfl
  -- the label begins with `<`, so the spaces of the indent end in front of it
  have hstops : Stops (· == ' ') (label node).toList := by
    rw [hlabel]
    exact stops_cons rfl
  unfold item row
  rw [takeWhile_append_stops hspaces hstops, dropWhile_append_stops hspaces hstops, hlabel,
    List.tail_cons, takeWhile_cut htag, String.ofList_toList, List.length_replicate]
  have hlevel : 2 * level / indentWidth = level := Nat.mul_div_cancel_left level (by decide)
  rw [hlevel]

end Outline

/-! ## §4. Sources. -/

/-- **AN OUTLINE GOES LINE BY LINE WITH THE SOURCE.**  The outline of a forest that was
read has as many lines as the source has pieces that are not blank.  Each is two spaces
for each level of its node, and the label of the node, which begins with the tag; the
nodes, parents before children, are those of the lines of the source in order.  Nesting
the lines, with a half of the spaces in front as depths, gives the forest again, as far
as tags go. -/
theorem Document.outline_line_by_line {source : String} {forest : List Node}
    (h : parse source = .ok forest) (hne : forest ≠ []) :
    ∃ elements output,
      List.Forall₂ (fun line element => ElementLine.read line = .ok element)
          (Source.lines source) elements
        ∧ (Node.levelsAll 0 forest).map (fun entry => entry.2.stripped)
          = elements.map ElementLine.node
        ∧ Format.outline.serialize forest = .ok output
        ∧ (Source.pieces output).length
          = (Source.pieces source).countP (fun piece => !piece.all isBlank)
        ∧ Source.pieces output
          = ((Node.levelsAll 0 forest).map fun entry =>
              List.replicate (2 * entry.1) ' ' ++ (Outline.label entry.2).toList)
        ∧ (∀ node, ∃ more, Outline.label node = "<" ++ node.tag ++ ">" ++ more)
        ∧ Forest.nest ((Source.pieces output).map Outline.item) = Node.bareAll forest := by
  obtain ⟨elements, hread, hnodes⟩ := nodes_of_parse h
  have hpieces := Outline.pieces_render hne (newlineFree_of_parse h)
  refine ⟨elements, Outline.render forest, hread, hnodes, rfl, ?_, hpieces,
    Outline.exists_label, ?_⟩
  · -- a node for each line, and a line for each piece that is not blank
    have hlength := congrArg List.length hnodes
    rw [List.length_map, List.length_map] at hlength
    rw [hpieces, List.length_map, hlength, ← hread.length_eq, Source.lines_eq_linesFrom,
      Source.length_linesFrom]
  · rw [hpieces, List.map_map, ← Forest.nest_tags]
    refine congrArg _ (List.map_congr_left fun entry hentry => ?_)
    -- the tag ends at the first `>`, since a tag name holds none
    have htag : '>' ∉ entry.2.tag.toList := fun hmem =>
      absurd ((expressible_of_parse h entry hentry).tag.isName.2 _ hmem) (by decide)
    exact Outline.item_row entry.1 htag

/-- A line with everything on it, a blank line, a jump by three levels and a way back by
two, which makes a sibling. -/
theorem Document.outline_line_by_line_after_jump :
    let text := "0123456789 0123456789 0123456789"
    let source := "<ul> c.d#i[k=v] = \"" ++ text ++ "\"\n \n      <li> :\x7ba: b\x7d\n  <b>"
    let forest : List Node :=
      [{ tag := "ul"
         attrs := OrderedMap.ofPairs [("class", "c d"), ("id", "i"), ("k", "v")]
         text := some text
         children := [{ tag := "li", styles := some (Styles.ofBlock "a: b") }, { tag := "b" }] }]
    parse source = .ok forest
      ∧ ∃ output, Format.outline.serialize forest = .ok output
        ∧ (Source.pieces output).length = 3
        ∧ Source.pieces output
          = ["<ul>#i.c.d [k] \"0123456789 0123456789 01234567...\"".toList,
             "  <li> \x7b1\x7d".toList, "  <b>".toList]
        ∧ Forest.nest ((Source.pieces output).map Outline.item)
          = [{ tag := "ul", children := [{ tag := "li" }, { tag := "b" }] }] := by
  intro text source forest
  have hparse : parse source = .ok forest := by decide +kernel
  obtain ⟨-, output, -, -, houtput, hcount, hlines, -, hforest⟩ :=
    outline_line_by_line hparse (List.cons_ne_nil _ _)
  exact ⟨hparse, output, houtput, hcount.trans (by decide +kernel),
    hlines.trans (by decide +kernel), hforest⟩

end MarkupShorthand
