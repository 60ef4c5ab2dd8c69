/-
  MarkupShorthand.Proofs.Yaml.Forest
  ──────────────────────────────────
  **A DUMP SHOWS ALL OF ITS FOREST.**

      delimitedBefore_textEntry    an entry shows its key and its text
      delimitedBefore_mapEntry     an entry with a map shows the map
      nodeItem_inj, nodeItems_inj  an item shows its node, and a list its nodes
      dump_eq_iff                  so two dumps are the same if the forests are

  Every lemma says where the thing ends too, given that what stands behind it is
  indented less: entries of a map behind a text, fields of the node behind a map,
  other nodes behind the node.
-/
import MarkupShorthand.Format.BuiltIn
import MarkupShorthand.Proofs.Yaml.Scalar

namespace MarkupShorthand.Yaml

open Text

/-! ## §1. Keys. -/

theorem entryKey_of_simple {key : String} (h : isSimpleKey key = true) (column : Nat) :
    entryKey column key = spaces column ++ (scalar (column + 2) key.toList ++ [':']) := by
  unfold entryKey
  simp only [h, if_true, List.append_assoc]

theorem entryKey_of_not_simple {key : String} (h : ¬ isSimpleKey key = true) (column : Nat) :
    entryKey column key
      = spaces column ++ '?' :: ' ' ::
        (closeLine (scalar (column + 2) key.toList) ++ (spaces column ++ [':'])) := by
  unfold entryKey
  simp only [h, List.append_assoc, List.cons_append]
  rfl

theorem any_isBreak_of_isSimpleKey {key : String} (h : isSimpleKey key = true) :
    key.toList.any isBreak = false := by
  unfold isSimpleKey at h
  simp only [Bool.and_eq_true, Bool.not_eq_true'] at h
  exact h.1

/-- A key begins at its column. -/
theorem exists_entryKey_eq (column : Nat) (key : String) :
    ∃ c more, entryKey column key = spaces column ++ c :: more ∧ ¬ c = ' ' ∧ isBreak c = false := by
  by_cases hkey : isSimpleKey key = true
  · obtain ⟨c, more, hscalar, -, hspace, hbreak⟩ :=
      exists_scalar_eq_cons (column + 2) key.toList
    rw [entryKey_of_simple hkey, hscalar]
    exact ⟨c, _, rfl, hspace, hbreak⟩
  · rw [entryKey_of_not_simple hkey]
    exact ⟨'?', _, rfl, by decide, rfl⟩

/-- **A KEY SHOWS ITS TEXT AND WHERE IT ENDS**, if there is a gap behind it. -/
theorem entryKey_inj {column : Nat} {key key' : String} {rest rest' : List Char}
    (hgap : gapFollows rest = true) (hgap' : gapFollows rest' = true)
    (heq : entryKey column key ++ rest = entryKey column key' ++ rest') :
    key = key' ∧ rest = rest' := by
  have hcolon : ∀ more, Shallow (column + 2) (spaces column ++ ':' :: more) :=
    fun more => shallow_line (by omega) (by decide) rfl more
  by_cases hkey : isSimpleKey key = true <;> by_cases hkey' : isSimpleKey key' = true
  · rw [entryKey_of_simple hkey, entryKey_of_simple hkey'] at heq
    simp only [List.append_assoc, List.singleton_append] at heq
    obtain ⟨hchars, hrest⟩ := scalar_key_inj (any_isBreak_of_isSimpleKey hkey) hgap hgap'
      (List.append_cancel_left heq)
    exact ⟨String.toList_inj.mp hchars, hrest⟩
  · rw [entryKey_of_simple hkey, entryKey_of_not_simple hkey'] at heq
    simp only [List.append_assoc, List.cons_append] at heq
    exact absurd (List.append_cancel_left heq) (scalar_ne_explicit _ _ _ _)
  · rw [entryKey_of_not_simple hkey, entryKey_of_simple hkey'] at heq
    simp only [List.append_assoc, List.cons_append] at heq
    exact absurd (List.append_cancel_left heq).symm (scalar_ne_explicit _ _ _ _)
  · rw [entryKey_of_not_simple hkey, entryKey_of_not_simple hkey'] at heq
    simp only [List.append_assoc, List.cons_append] at heq
    have hlines := (List.cons.inj (List.cons.inj (List.append_cancel_left heq)).2).2
    obtain ⟨hchars, hcolons⟩ := delimitedBefore_scalar (column + 2) _ _ _ _ trivial trivial
      (hcolon rest) (hcolon rest') hlines
    exact ⟨String.toList_inj.mp hchars, (List.cons.inj (List.append_cancel_left hcolons)).2⟩

/-! ## §2. Entries. -/

theorem delimitedBefore_textValue (column : Nat) :
    DelimitedBefore (Shallow (column + 2)) (fun _ => True) (textValue column) := by
  intro value value' rest rest' _ _ hrest hrest' heq
  obtain ⟨hchars, hrests⟩ := delimitedBefore_scalar (column + 2) _ _ _ _ trivial trivial
    hrest hrest' (List.cons.inj heq).2
  exact ⟨String.toList_inj.mp hchars, hrests⟩

/-- **AN ENTRY SHOWS ITS KEY AND ITS TEXT.** -/
theorem delimitedBefore_textEntry (column : Nat) :
    DelimitedBefore (Shallow (column + 2)) (fun _ => True)
      fun entry : String × String => textEntry column entry.1 entry.2 := by
  rintro ⟨key, value⟩ ⟨key', value'⟩ rest rest' _ _ hrest hrest' heq
  simp only [textEntry, List.append_assoc] at heq
  obtain ⟨rfl, hvalues⟩ := entryKey_inj rfl rfl heq
  obtain ⟨rfl, hrests⟩ := delimitedBefore_textValue column _ _ _ _ trivial trivial
    hrest hrest' hvalues
  exact ⟨rfl, hrests⟩

theorem exists_textEntry_append_eq (column : Nat) (key value : String) (rest : List Char) :
    ∃ c more, textEntry column key value ++ rest = spaces column ++ c :: more ∧ ¬ c = ' '
      ∧ isBreak c = false := by
  obtain ⟨c, more, hkey, hc⟩ := exists_entryKey_eq column key
  unfold textEntry
  rw [hkey, List.append_assoc, List.append_assoc]
  exact ⟨c, _, rfl, hc⟩

/-- One more entry may stand behind an entry ... -/
theorem shallow_textEntry (column : Nat) (entry : String × String) (more : List Char) :
    Shallow (column + 2) (textEntry column entry.1 entry.2 ++ more) := by
  obtain ⟨c, behind, heq, hspace, hbreak⟩ :=
    exists_textEntry_append_eq column entry.1 entry.2 more
  rw [heq]
  exact shallow_line (by omega) hspace hbreak behind

/-- ... and what is indented less is none. -/
theorem Shallow.noItem_textEntry {column : Nat} {rest : List Char} (h : Shallow column rest) :
    NoItem (fun _ => True) (fun entry : String × String => textEntry column entry.1 entry.2)
      rest := by
  intro entry more _ hentry
  obtain ⟨c, behind, heq, -⟩ := exists_textEntry_append_eq column entry.1 entry.2 more
  exact h.ne_spaces c behind (hentry.trans heq)

/-- What a map is written as behind its key. -/
def mapValue (column : Nat) (map : OrderedMap) : List Char :=
  if map.isEmpty then [' ', '{', '}', '\n']
  else '\n' :: map.entries.flatMap fun entry => textEntry (column + 2) entry.1 entry.2

theorem mapEntry_eq (column : Nat) (key : String) (map : OrderedMap) :
    mapEntry column key map = entryKey column key ++ mapValue column map := by
  unfold mapEntry mapValue
  split <;> rfl

/-- **A MAP SHOWS ITS ENTRIES AND WHERE THEY END.** -/
theorem delimitedBefore_mapValue (column : Nat) :
    DelimitedBefore (Shallow (column + 2)) (fun _ => True) (mapValue column) := by
  have hentries := delimitedBefore_textEntry (column + 2)
  intro map map' rest rest' _ _ hrest hrest' heq
  unfold mapValue OrderedMap.isEmpty at heq
  split at heq <;> split at heq
  · next hnil hnil' =>
    rw [List.isEmpty_iff] at hnil hnil'
    exact ⟨OrderedMap.ext (hnil.trans hnil'.symm), List.append_cancel_left heq⟩
  · cases (List.cons.inj heq).1
  · cases (List.cons.inj heq).1
  · obtain ⟨hsame, hrests⟩ := hentries.flatMap_inj
      (fun entry more _ => shallow_textEntry (column + 2) entry more) (fun _ _ => trivial)
      (fun _ _ => trivial) (hrest.mono (by omega)) (hrest'.mono (by omega)) hrest.noItem_textEntry
      hrest'.noItem_textEntry (List.cons.inj heq).2
    exact ⟨OrderedMap.ext hsame, hrests⟩

/-! ## §3. Fields of a node. -/

/-- A field that a node may have, in a map at a column. -/
def field {α : Type} (column : Nat) (key : String) (write : α → List Char) :
    Option α → List Char
  | none => []
  | some value => entryKey column key ++ write value

/-- Behind a field, the text goes on with a field of one of these keys or leaves the
node. -/
def GoesOn (column : Nat) (keys : List String) (rest : List Char) : Prop :=
  Shallow column rest
    ∨ ∃ key ∈ keys, ∃ more, gapFollows more = true ∧ rest = entryKey column key ++ more

theorem GoesOn.shallow {column : Nat} {keys : List String} {rest : List Char}
    (h : GoesOn column keys rest) : Shallow (column + 2) rest := by
  rcases h with hrest | ⟨key, -, more, -, rfl⟩
  · exact hrest.mono (by omega)
  · obtain ⟨c, behind, hkey, hspace, hbreak⟩ := exists_entryKey_eq column key
    rw [hkey, List.append_assoc]
    exact shallow_line (by omega) hspace hbreak _

theorem GoesOn.ne_entryKey {column : Nat} {keys : List String} {rest : List Char}
    (h : GoesOn column keys rest) {key : String} (hkey : key ∉ keys) {more : List Char}
    (hgap : gapFollows more = true) : ¬ rest = entryKey column key ++ more := by
  intro heq
  rcases h with hrest | ⟨other, hother, behind, hbehind, rfl⟩
  · obtain ⟨c, behind, hfirst, -⟩ := exists_entryKey_eq column key
    rw [hfirst, List.append_assoc] at heq
    exact hrest.ne_spaces c _ heq
  · rw [(entryKey_inj hbehind hgap heq).1] at hother
    exact hkey hother

section Fields

variable {α : Type} {column : Nat} {key : String} {keys : List String} {write : α → List Char}
  (hgap : ∀ value more, gapFollows (write value ++ more) = true)

include hgap

theorem GoesOn.field {rest : List Char} (h : GoesOn column keys rest) (held : Option α) :
    GoesOn column (key :: keys) (field column key write held ++ rest) := by
  cases held with
  | none =>
    rcases h with hrest | ⟨other, hother, more, hmore, hrest⟩
    · exact Or.inl hrest
    · exact Or.inr ⟨other, List.mem_cons_of_mem _ hother, more, hmore, hrest⟩
  | some value =>
    exact Or.inr ⟨key, List.mem_cons_self, _, hgap value rest, List.append_assoc _ _ _⟩

/-- **A FIELD SHOWS WHETHER IT IS THERE**, and what its value shows. -/
theorem field_inj {held held' : Option α} {rest rest' : List Char}
    (hrest : GoesOn column keys rest) (hrest' : GoesOn column keys rest') (hkey : key ∉ keys)
    (hwrite : ∀ value value', held = some value → held' = some value' →
      write value ++ rest = write value' ++ rest' → value = value' ∧ rest = rest')
    (heq : Yaml.field column key write held ++ rest
      = Yaml.field column key write held' ++ rest') : held = held' ∧ rest = rest' := by
  cases held with
  | none =>
    cases held' with
    | none => exact ⟨rfl, heq⟩
    | some value' =>
      rw [Yaml.field, Yaml.field, List.append_assoc] at heq
      exact absurd heq (hrest.ne_entryKey hkey (hgap value' rest'))
  | some value =>
    cases held' with
    | none =>
      rw [Yaml.field, Yaml.field, List.append_assoc] at heq
      exact absurd heq.symm (hrest'.ne_entryKey hkey (hgap value rest))
    | some value' =>
      rw [Yaml.field, Yaml.field, List.append_assoc, List.append_assoc] at heq
      obtain ⟨hvalue, hrests⟩ := hwrite value value' rfl rfl (List.append_cancel_left heq)
      exact ⟨by rw [hvalue], hrests⟩

end Fields

theorem gapFollows_textValue (column : Nat) (value : String) (more : List Char) :
    gapFollows (textValue column value ++ more) = true := rfl

theorem gapFollows_mapValue (column : Nat) (map : OrderedMap) (more : List Char) :
    gapFollows (mapValue column map ++ more) = true := by
  unfold mapValue
  split <;> rfl

/-! ## §4. Nodes. -/

/-- The children, if there are any. -/
def heldChildren (children : List Node) : Option (List Node) :=
  if children.isEmpty then none else some children

theorem eq_of_heldChildren {children held : List Node} (h : heldChildren children = some held) :
    held = children := by
  cases children with
  | nil => cases h
  | cons child children => exact (Option.some.inj h).symm

theorem heldChildren_inj {children children' : List Node}
    (h : heldChildren children = heldChildren children') : children = children' := by
  cases children with
  | nil =>
    cases children' with
    | nil => rfl
    | cons child' children' => cases h
  | cons child children =>
    cases children' with
    | nil => cases h
    | cons child' children' => exact Option.some.inj h

/-- Children as the value of their key, at the column of the key. -/
def childrenValue (column : Nat) (children : List Node) : List Char :=
  '\n' :: nodeItems column children

theorem gapFollows_childrenValue (column : Nat) (children : List Node) (more : List Char) :
    gapFollows (childrenValue column children ++ more) = true := rfl

/-- The fields of a node from its children on, and what is behind the node. -/
def fromChildren (column : Nat) (children : List Node) (rest : List Char) : List Char :=
  field column "children" (childrenValue column) (heldChildren children) ++ rest

/-- ... from its text on ... -/
def fromText (column : Nat) (text : Option String) (behind : List Char) : List Char :=
  field column "text" (textValue column) text ++ behind

/-- ... from its style block on ... -/
def fromStyles (column : Nat) (styles : Option Styles) (behind : List Char) : List Char :=
  field column "styles" (mapValue column) styles ++ behind

/-- ... and from its attributes on. -/
def fromAttrs (column : Nat) (attrs : Attributes) (behind : List Char) : List Char :=
  field column "attrs" (mapValue column) (some attrs) ++ behind

/-- An item is its tag and its fields. -/
theorem nodeItem_eq (column : Nat) (tag : String) (attrs : Attributes) (styles : Option Styles)
    (text : Option String) (children : List Node) (rest : List Char) :
    nodeItem column ⟨tag, attrs, styles, text, children⟩ ++ rest
      = itemStart column ++ (textValue (column + 2) tag
        ++ fromAttrs (column + 2) attrs (fromStyles (column + 2) styles
          (fromText (column + 2) text (fromChildren (column + 2) children rest)))) := by
  -- each part as it is defined is its field
  have hparts : ∀ styled shown listed : List Char,
      styled = field (column + 2) "styles" (mapValue (column + 2)) styles →
      shown = field (column + 2) "text" (textValue (column + 2)) text →
      listed = field (column + 2) "children" (childrenValue (column + 2)) (heldChildren children) →
      itemStart column ++ textValue (column + 2) tag ++ mapEntry (column + 2) "attrs" attrs
          ++ styled ++ shown ++ listed ++ rest
        = itemStart column ++ (textValue (column + 2) tag
          ++ fromAttrs (column + 2) attrs (fromStyles (column + 2) styles
            (fromText (column + 2) text (fromChildren (column + 2) children rest)))) := by
    rintro styled shown listed rfl rfl rfl
    rw [mapEntry_eq, fromAttrs, field, fromStyles, fromText, fromChildren]
    simp only [List.append_assoc]
  unfold nodeItem
  apply hparts
  · cases styles with
    | none => rfl
    | some held => exact mapEntry_eq _ _ _
  · cases text <;> rfl
  · cases children <;> rfl

theorem exists_nodeItems_eq (column : Nat) (node : Node) (nodes : List Node) (rest : List Char) :
    ∃ more, nodeItems column (node :: nodes) ++ rest = spaces column ++ '-' :: more := by
  obtain ⟨tag, attrs, styles, text, children⟩ := node
  rw [nodeItems, List.append_assoc, nodeItem_eq, itemStart, List.append_assoc]
  exact ⟨_, rfl⟩

/-- Nodes behind a node are at its own column or less. -/
theorem shallow_nodeItems {column : Nat} {rest : List Char} (h : Shallow column rest)
    (nodes : List Node) : Shallow (column + 2) (nodeItems column nodes ++ rest) := by
  cases nodes with
  | nil => exact h.mono (by omega)
  | cons node nodes =>
    obtain ⟨more, hitem⟩ := exists_nodeItems_eq column node nodes rest
    rw [hitem]
    exact shallow_line (by omega) (by decide) rfl more

theorem Shallow.ne_nodeItems {column : Nat} {rest : List Char} (h : Shallow column rest)
    (node : Node) (nodes : List Node) (more : List Char) :
    ¬ rest = nodeItems column (node :: nodes) ++ more := by
  obtain ⟨behind, hitem⟩ := exists_nodeItems_eq column node nodes more
  rw [hitem]
  exact h.ne_spaces '-' behind

section Fields

variable {column : Nat} {rest : List Char} (h : Shallow column rest) (children : List Node)
  (text : Option String) (styles : Option Styles) (attrs : Attributes)

include h

theorem goesOn_fromChildren : GoesOn column ["children"] (fromChildren column children rest) := by
  have hend : GoesOn column [] rest := Or.inl h
  exact hend.field (gapFollows_childrenValue column) _

theorem goesOn_fromText :
    GoesOn column ["text", "children"] (fromText column text (fromChildren column children rest)) :=
  (goesOn_fromChildren h children).field (gapFollows_textValue column) text

theorem goesOn_fromStyles :
    GoesOn column ["styles", "text", "children"]
      (fromStyles column styles (fromText column text (fromChildren column children rest))) :=
  (goesOn_fromText h children text).field (gapFollows_mapValue column) styles

theorem goesOn_fromAttrs :
    GoesOn column ["attrs", "styles", "text", "children"]
      (fromAttrs column attrs
        (fromStyles column styles (fromText column text (fromChildren column children rest)))) :=
  (goesOn_fromStyles h children text styles).field (gapFollows_mapValue column) (some attrs)

end Fields

mutual

/-- **STEP**: an item, with what is behind it, shows its node and where it ends. -/
theorem nodeItem_inj :
    ∀ (node node' : Node) (column : Nat) (rest rest' : List Char),
      Shallow (column + 2) rest → Shallow (column + 2) rest' →
      nodeItem column node ++ rest = nodeItem column node' ++ rest' →
      node = node' ∧ rest = rest'
  | ⟨tag, attrs, styles, text, children⟩, ⟨tag', attrs', styles', text', children'⟩, column,
      rest, rest', hrest, hrest', heq => by
    have hend : GoesOn (column + 2) [] rest := Or.inl hrest
    have hend' : GoesOn (column + 2) [] rest' := Or.inl hrest'
    have hlisted := goesOn_fromChildren hrest children
    have hlisted' := goesOn_fromChildren hrest' children'
    have hshown := goesOn_fromText hrest children text
    have hshown' := goesOn_fromText hrest' children' text'
    have hstyled := goesOn_fromStyles hrest children text styles
    have hstyled' := goesOn_fromStyles hrest' children' text' styles'
    have hmap := delimitedBefore_mapValue (column + 2)
    have hvalue := delimitedBefore_textValue (column + 2)
    have hrun := nodeItems_inj children children' (column + 2) rest rest' hrest hrest'
    -- the tag, then one field after the other
    rw [nodeItem_eq, nodeItem_eq] at heq
    obtain ⟨htag, heq⟩ := hvalue tag tag' _ _ trivial trivial
      (goesOn_fromAttrs hrest children text styles attrs).shallow
      (goesOn_fromAttrs hrest' children' text' styles' attrs').shallow
      (List.append_cancel_left heq)
    obtain ⟨hattrs, heq⟩ := field_inj (gapFollows_mapValue (column + 2)) hstyled hstyled'
      (by decide) (fun _ _ _ _ => hmap _ _ _ _ trivial trivial hstyled.shallow hstyled'.shallow)
      heq
    obtain ⟨hstyles, heq⟩ := field_inj (gapFollows_mapValue (column + 2)) hshown hshown'
      (by decide) (fun _ _ _ _ => hmap _ _ _ _ trivial trivial hshown.shallow hshown'.shallow)
      heq
    obtain ⟨htext, heq⟩ := field_inj (gapFollows_textValue (column + 2)) hlisted hlisted'
      (by decide) (fun _ _ _ _ => hvalue _ _ _ _ trivial trivial hlisted.shallow hlisted'.shallow)
      heq
    obtain ⟨hchildren, heq⟩ := field_inj (gapFollows_childrenValue (column + 2)) hend hend'
      List.not_mem_nil (fun held held' hheld hheld' hlists => by
        rw [eq_of_heldChildren hheld, eq_of_heldChildren hheld'] at hlists ⊢
        exact hrun (List.cons.inj hlists).2) heq
    rw [htag, Option.some.inj hattrs, hstyles, htext, heldChildren_inj hchildren]
    exact ⟨rfl, heq⟩

/-- **RUN**: ... and items show their nodes. -/
theorem nodeItems_inj :
    ∀ (nodes nodes' : List Node) (column : Nat) (rest rest' : List Char),
      Shallow column rest → Shallow column rest' →
      nodeItems column nodes ++ rest = nodeItems column nodes' ++ rest' →
      nodes = nodes' ∧ rest = rest'
  | [], [], _, _, _, _, _, heq => ⟨rfl, heq⟩
  | [], node' :: nodes', _, _, rest', hrest, _, heq =>
    absurd heq (hrest.ne_nodeItems node' nodes' rest')
  | node :: nodes, [], _, rest, _, _, hrest', heq =>
    absurd heq.symm (hrest'.ne_nodeItems node nodes rest)
  | node :: nodes, node' :: nodes', column, rest, rest', hrest, hrest', heq => by
    rw [nodeItems, nodeItems, List.append_assoc, List.append_assoc] at heq
    obtain ⟨hnode, hmore⟩ := nodeItem_inj node node' column _ _ (shallow_nodeItems hrest nodes)
      (shallow_nodeItems hrest' nodes') heq
    obtain ⟨hnodes, hrests⟩ := nodeItems_inj nodes nodes' column rest rest' hrest hrest' hmore
    exact ⟨by rw [hnode, hnodes], hrests⟩

end

/-! ## §5. Dumps. -/

theorem render_inj {forest other : List Node} (h : render forest = render other) :
    forest = other := by
  -- an empty forest is a pair of brackets, and no item begins with one
  have hempty : ∀ node nodes, ¬ "[]\n" = .ofList (nodeItems 0 (node :: nodes)) := by
    intro node nodes heq
    obtain ⟨more, hitem⟩ := exists_nodeItems_eq 0 node nodes []
    rw [List.append_nil] at hitem
    have hbracket : String.ofList ['[', ']', '\n'] = .ofList ('-' :: more) :=
      heq.trans (congrArg String.ofList hitem)
    exact absurd (List.cons.inj (String.ofList_injective hbracket)).1 (by decide)
  cases forest with
  | nil =>
    cases other with
    | nil => rfl
    | cons node nodes => exact absurd h (hempty node nodes)
  | cons node nodes =>
    cases other with
    | nil => exact absurd h.symm (hempty node nodes)
    | cons node' nodes' =>
      have hitems : nodeItems 0 (node :: nodes) ++ [] = nodeItems 0 (node' :: nodes') ++ [] := by
        rw [List.append_nil, List.append_nil]
        exact String.ofList_injective h
      exact (nodeItems_inj _ _ 0 [] [] (shallow_nil 0) (shallow_nil 0) hitems).1

/-- **A DUMP SHOWS ALL OF ITS FOREST.**  Every forest is written, and two are written
alike only if they are the same. -/
theorem dump_eq_iff (forest other : List Node) :
    (∃ text, Format.yamlDump.serialize forest = .ok text)
    ∧ (Format.yamlDump.serialize forest = Format.yamlDump.serialize other ↔ forest = other) :=
  ⟨⟨render forest, rfl⟩, fun h => render_inj (Except.ok.inj h), congrArg _⟩

end MarkupShorthand.Yaml
