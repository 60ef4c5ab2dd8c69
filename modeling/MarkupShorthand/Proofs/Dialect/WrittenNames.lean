/-
  MarkupShorthand.Proofs.Dialect.WrittenNames
  ───────────────────────────────────────────
  **AN OPENING TAG REPEATS A NAME ONLY WHERE THE FORMAT GIVES TWO THINGS ONE NAME.**

  The attributes of a node have different names, however often a line gives one of
  them.  What a format writes is not these names alone:

      style block     is written as one more attribute, called `style`
      component       writes `class` as `className`

  So there are two ways to a repeated name, an attribute that is itself called
  `style` or `className`, and no other.

      attributeNames    the names that are to be written
      writtenNames      the names that stand in an opening tag
-/
import MarkupShorthand.Proofs.Dialect.OneLined
import MarkupShorthand.Proofs.Document.Image

namespace MarkupShorthand

open Text

/-! ## §1. Names in an opening tag. -/

namespace Dialect

/-- The names of the attributes in order, and that of the style block. -/
def attributeNames (dialect : Dialect) (node : Node) : List String :=
  node.attrs.keys.map dialect.attributeName ++ (node.styles.map fun _ => "style").toList

/-- The names that stand in the opening tag: of each part behind the tag what is in
front of the first `=`. -/
def writtenNames (dialect : Dialect) (node : Node) : List String :=
  (dialect.attributeTexts node).map fun text => .ofList (text.toList.takeWhile (· != '='))

/-- A name without `=` is read off the part that begins with it. -/
theorem takeWhile_name {name : String} (h : '=' ∉ name.toList) {text : String} {rest : List Char}
    (htext : text.toList = name.toList ++ '=' :: rest) :
    String.ofList (text.toList.takeWhile (· != '=')) = name := by
  rw [htext, takeWhile_cut h, String.ofList_toList]

/-- **THE NAMES THAT STAND IN AN OPENING TAG** are those that are to be written, if no
attribute has an `=` in its name. -/
theorem writtenNames_eq {dialect : Dialect} (hlegible : dialect.Legible) {node : Node}
    (hnames : ∀ name ∈ node.attrs.keys, '=' ∉ (dialect.attributeName name).toList) :
    dialect.writtenNames node = dialect.attributeNames node := by
  unfold writtenNames attributeNames attributeTexts
  rw [List.map_append, List.map_map, OrderedMap.keys, List.map_map]
  congr 1
  · refine List.map_congr_left fun entry hentry => ?_
    have htext : (dialect.attributeName entry.1 ++ "=\"" ++ entry.2 ++ "\"").toList
        = (dialect.attributeName entry.1).toList ++ '=' :: '"' :: (entry.2.toList ++ ['"']) := by
      simp
    exact takeWhile_name (hnames entry.1 (List.mem_map_of_mem hentry)) htext
  · cases node.styles with
    | none => rfl
    | some styles =>
      obtain ⟨body, hbody⟩ := hlegible.style_named styles
      have hfree : '=' ∉ "style".toList := by decide
      exact congrArg (fun name => [name]) (takeWhile_name hfree hbody)

/-! ## §2. What renaming makes of different names. -/

/-- In a component template `class` and `className` fall together. -/
theorem count_attributeName_component (names : List String) (name : String) :
    (names.map component.attributeName).count name
      = if name = "className" then names.count Attributes.classKey + names.count "className"
        else if name = Attributes.classKey then 0
        else names.count name := by
  induction names with
  | nil => simp
  | cons first names ih =>
    have hne : Attributes.classKey ≠ "className" := by decide
    have hfirst : component.attributeName first
        = if first = Attributes.classKey then "className" else first := rfl
    simp only [List.map_cons, List.count_cons, ih, hfirst, beq_iff_eq]
    -- the first name is renamed or not, and the name counted is one of the two or not
    split <;> grind

/-- A style block adds its name once. -/
theorem count_styleName (styles : Option Styles) (name : String) :
    (styles.map fun _ => "style").toList.count name
      = if styles.isSome = true ∧ name = "style" then 1 else 0 := by
  cases styles with
  | none => rfl
  | some styles =>
    show ["style"].count name = if true = true ∧ name = "style" then 1 else 0
    rw [List.count_singleton]
    by_cases hname : name = "style"
    · rw [hname]
      rfl
    · simp [hname, Ne.symm hname]

/-- **WHAT IS REPEATED AMONG THE NAMES TO BE WRITTEN**, and when. -/
theorem one_lt_count_attributeNames_iff (format : OutputFormat) (node : Node) (name : String) :
    1 < (format.dialect.attributeNames node).count name
      ↔ (name = "style" ∧ node.styles.isSome = true ∧ "style" ∈ node.attrs.keys)
        ∨ (name = "className" ∧ format = .componentTemplate
          ∧ Attributes.classKey ∈ node.attrs.keys ∧ "className" ∈ node.attrs.keys) := by
  have hkey : ∀ key, node.attrs.keys.count key = if key ∈ node.attrs.keys then 1 else 0 :=
    fun key => List.Nodup.count node.attrs.distinct
  unfold attributeNames
  rw [List.count_append, count_styleName]
  cases format with
  | markup =>
    have hrename : (node.attrs.keys.map OutputFormat.markup.dialect.attributeName).count name
        = node.attrs.keys.count name := by
      show (node.attrs.keys.map id).count name = _
      rw [List.map_id]
    rw [hrename, hkey]
    grind
  | componentTemplate =>
    show 1 < (node.attrs.keys.map component.attributeName).count name + _ ↔ _
    have hclass : Attributes.classKey ≠ "style" := by decide
    have hclassName : "className" ≠ "style" := by decide
    rw [count_attributeName_component, hkey, hkey, hkey]
    -- the three counts of the renamed keys
    split
    · grind
    · split <;> grind

end Dialect

/-! ## §3. Nodes that were read. -/

/-- No format writes an `=` where a name has none. -/
theorem OutputFormat.equals_not_mem_attributeName (format : OutputFormat) {name : String}
    (h : '=' ∉ name.toList) : '=' ∉ (format.dialect.attributeName name).toList := by
  cases format with
  | markup => exact h
  | componentTemplate => exact Dialect.not_mem_attributeName_component (by decide) h

/-- **WHEN AN OPENING TAG REPEATS A NAME.**  In any format the names that stand in the
opening tag of a node that was read are those of its attributes, in order and as the
format calls them, and `style` behind them for a style block.  A name stands there more
than once exactly if it is `style` and the node has both a style block and an attribute
of this name, or it is `className`, the format is that of component templates and the
node has both a `class` and a `className`.  So these are the nodes whose names are not
all different, whatever words, marks and brackets their lines have. -/
theorem Document.names_repeated_iff {source : String} {forest : List Node}
    (h : parse source = .ok forest) (format : OutputFormat) :
    ∀ entry ∈ Node.levelsAll 0 forest,
      format.dialect.writtenNames entry.2
          = entry.2.attrs.keys.map format.dialect.attributeName
            ++ (entry.2.styles.map fun _ => "style").toList
        ∧ (∀ name, 1 < (format.dialect.writtenNames entry.2).count name
            ↔ (name = "style" ∧ entry.2.styles.isSome = true ∧ "style" ∈ entry.2.attrs.keys)
              ∨ (name = "className" ∧ format = .componentTemplate
                ∧ Attributes.classKey ∈ entry.2.attrs.keys ∧ "className" ∈ entry.2.attrs.keys))
        ∧ (¬ (format.dialect.writtenNames entry.2).Nodup
            ↔ (entry.2.styles.isSome = true ∧ "style" ∈ entry.2.attrs.keys)
              ∨ (format = .componentTemplate
                ∧ Attributes.classKey ∈ entry.2.attrs.keys
                ∧ "className" ∈ entry.2.attrs.keys)) := by
  rintro ⟨level, node⟩ hentry
  have hnode : node.IsExpressible := expressible_of_parse h _ hentry
  -- a bracket ends the name at its first `=`
  have hfree : ∀ name ∈ node.attrs.keys, '=' ∉ (format.dialect.attributeName name).toList := by
    intro name hname
    obtain ⟨pair, hpair, rfl⟩ := List.mem_map.mp hname
    exact format.equals_not_mem_attributeName
      ((hnode.attrs pair hpair).name_free.not_mem (by decide))
  have hwritten := Dialect.writtenNames_eq format.legible_dialect hfree
  have hcount := Dialect.one_lt_count_attributeNames_iff format node
  rw [← hwritten] at hcount
  refine ⟨hwritten, hcount, ?_⟩
  rw [List.nodup_iff_count_le_one]
  constructor
  · intro hrepeated
    obtain ⟨name, hname⟩ := not_forall.mp hrepeated
    rcases (hcount name).mp (not_le.mp hname) with ⟨-, hstyle⟩ | ⟨-, hclass⟩
    · exact Or.inl hstyle
    · exact Or.inr hclass
  · rintro (hstyle | hclass) hdistinct
    · exact absurd (hdistinct "style") (not_le.mpr ((hcount _).mpr (Or.inl ⟨rfl, hstyle⟩)))
    · exact absurd (hdistinct "className") (not_le.mpr ((hcount _).mpr (Or.inr ⟨rfl, hclass⟩)))

/-- Two ids and a key that is given twice, an attribute `style` beside a style block,
and a `className` beside a class. -/
theorem Document.names_repeated_by_style_and_className :
    let source := "<a> x#i.y#j[style=s][k=1][k=2] :\x7bb: c\x7d\n  <p> w[className=d]"
    let inner : Node :=
      { tag := "p", attrs := OrderedMap.ofPairs [("class", "w"), ("className", "d")] }
    let outer : Node :=
      { tag := "a"
        attrs := OrderedMap.ofPairs [("class", "x y"), ("id", "j"), ("style", "s"), ("k", "2")]
        styles := some (Styles.ofBlock "b: c")
        children := [inner] }
    parse source = .ok [outer]
      ∧ Dialect.component.writtenNames outer = ["className", "id", "style", "k", "style"]
      ∧ ¬ (Dialect.markup.writtenNames outer).Nodup
      ∧ (Dialect.markup.writtenNames inner).Nodup
      ∧ ¬ (Dialect.component.writtenNames inner).Nodup := by
  intro source inner outer
  have hparse : parse source = .ok [outer] := by decide +kernel
  have houter : (0, outer) ∈ Node.levelsAll 0 [outer] := List.mem_cons_self
  have hinner : (1, inner) ∈ Node.levelsAll 0 [outer] :=
    List.mem_cons_of_mem _ List.mem_cons_self
  obtain ⟨hnames, -, -⟩ := names_repeated_iff hparse .componentTemplate _ houter
  obtain ⟨-, -, hstyle⟩ := names_repeated_iff hparse .markup _ houter
  obtain ⟨-, -, hmarkup⟩ := names_repeated_iff hparse .markup _ hinner
  obtain ⟨-, -, hclass⟩ := names_repeated_iff hparse .componentTemplate _ hinner
  refine ⟨hparse, hnames.trans (by decide +kernel), hstyle.mpr (by decide +kernel), ?_,
    hclass.mpr (by decide +kernel)⟩
  -- markup writes no name twice here
  exact not_not.mp fun hrepeated => absurd (hmarkup.mp hrepeated) (by decide +kernel)

end MarkupShorthand
