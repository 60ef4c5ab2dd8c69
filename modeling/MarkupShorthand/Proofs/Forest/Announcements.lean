/-
  MarkupShorthand.Proofs.Forest.Announcements
  ───────────────────────────────────────────
  **A NODE IS ANNOUNCED UNDER THE PARENT THAT IT WILL HAVE.**

  The announcement is made when a node is opened, from the elements that are open at
  that moment; the node is moved into its parent when it closes, which may be long
  after.  What carries the argument is which element each depth would find:

      Offers               for every depth, the innermost open element that is
                           shallower is the one that stands at the place on offer
      Offers.add           reading one node keeps it so
      attachmentsFrom_eq   so the announcements name what stands at the places of
                           the parents
      saysRoot_message     and call a node a root if it has none, not otherwise
-/
import MarkupShorthand.Proofs.Forest.Parents
import MarkupShorthand.Proofs.Text.Run

namespace MarkupShorthand

namespace Forest

/-! ## §1. What stays open. -/

/-- How a node that is read is named. -/
def itemElement (item : Node × Nat) : OpenElement :=
  ⟨item.1.tag, item.2⟩

/-- Closing takes the elements away that are not shallower, and gives no other name to
those that stay. -/
theorem elements_closeOnto (depth : Nat) (finished : List Node) :
    ∀ (opened : List OpenNode) (closed : List Node),
      (Nesting.closeOnto depth finished closed opened).opened.map OpenNode.element
        = (opened.map OpenNode.element).dropWhile fun element => depth ≤ element.depth
  | [], _ => rfl
  | inner :: outer, closed => by
    have hdepth : inner.element.depth = inner.depth := rfl
    rw [Nesting.closeOnto, List.map_cons, List.dropWhile_cons, hdepth]
    by_cases h : depth ≤ inner.depth
    · rw [if_pos h, if_pos (decide_eq_true h)]
      exact elements_closeOnto depth finished outer _
    · rw [if_neg h, if_neg (mt of_decide_eq_true h)]
      rfl

/-- The innermost of these elements that is shallower. -/
def innermost (elements : List OpenElement) (depth : Nat) : Option OpenElement :=
  elements.find? fun element => element.depth < depth

theorem innermost_cons (element : OpenElement) (elements : List OpenElement) (depth : Nat) :
    innermost (element :: elements) depth
      = if element.depth < depth then some element else innermost elements depth := by
  unfold innermost
  rw [List.find?_cons]
  by_cases h : element.depth < depth
  · rw [if_pos h, decide_eq_true h]
  · rw [if_neg h, decide_eq_false h]

/-- What is innermost after closing was the innermost shallower element before. -/
theorem head?_closeTo (nesting : Nesting) (depth : Nat) :
    (nesting.closeTo depth).opened.head?.map OpenNode.element
      = innermost (nesting.opened.map OpenNode.element) depth := by
  have hclosed := elements_closeOnto depth nesting.finished nesting.opened []
  have hstays : (fun element : OpenElement => decide (depth ≤ element.depth))
      = fun element => !decide (element.depth < depth) := by
    funext element
    rw [← decide_not, decide_eq_decide, Nat.not_lt]
  unfold innermost
  rw [← List.head?_map, List.find?_eq_head?_dropWhile_not, ← hstays]
  exact congrArg List.head? hclosed

/-- Elements that are not shallower than one depth are not found from a depth that is
no deeper. -/
theorem innermost_dropWhile {depth level : Nat} (h : depth ≤ level) :
    ∀ elements : List OpenElement,
      innermost (elements.dropWhile fun element => level ≤ element.depth) depth
        = innermost elements depth
  | [] => rfl
  | element :: elements => by
    rw [List.dropWhile_cons]
    by_cases hdropped : level ≤ element.depth
    · have hnot : ¬ element.depth < depth := by omega
      rw [if_pos (decide_eq_true hdropped), innermost_dropWhile h elements, innermost_cons,
        if_neg hnot]
    · rw [if_neg (mt of_decide_eq_true hdropped)]

/-! ## §2. Which element each depth would find. -/

/-- For every depth, the innermost open element that is shallower is the one at the
place that is on offer, among all elements in order. -/
def Offers (elements : List OpenElement) (nesting : Nesting) (parent : Nat → Option Nat) : Prop :=
  ∀ depth, innermost (nesting.opened.map OpenNode.element) depth
    = (parent depth).bind fun place => elements[place]?

theorem offers_nothing (elements : List OpenElement) : Offers elements {} fun _ => none :=
  fun _ => rfl

/-- **STEP**: a node that is read is on offer to everything deeper, and changes nothing
for the rest. -/
theorem Offers.add {elements : List OpenElement} {nesting : Nesting} {parent : Nat → Option Nat}
    (h : Offers elements nesting parent) {item : Node × Nat} {place : Nat}
    (hplace : elements[place]? = some (itemElement item)) :
    Offers elements (nesting.add item)
      fun depth => if item.2 < depth then some place else parent depth := by
  intro depth
  have hopened : (nesting.add item).opened.map OpenNode.element
      = itemElement item ::
        (nesting.opened.map OpenNode.element).dropWhile fun element => item.2 ≤ element.depth :=
    congrArg _ (elements_closeOnto item.2 nesting.finished nesting.opened [])
  have hdepth : (itemElement item).depth = item.2 := rfl
  show _ = (if item.2 < depth then some place else parent depth).bind _
  rw [hopened, innermost_cons, hdepth]
  by_cases hdeeper : item.2 < depth
  · rw [if_pos hdeeper, if_pos hdeeper, Option.bind_some, hplace]
  · -- what the node closed would not have been found from here
    rw [if_neg hdeeper, if_neg hdeeper, innermost_dropWhile (Nat.not_lt.mp hdeeper), h depth]

/-- **RUN**: each node is announced under the element at the place of the parent that
it finds. -/
theorem attachmentsFrom_eq {elements : List OpenElement} :
    ∀ (items : List (Node × Nat)) (past : List OpenElement) (nesting : Nesting)
      (parent : Nat → Option Nat),
      elements = past ++ items.map itemElement → Offers elements nesting parent →
      attachmentsFrom nesting items
        = List.zipWith
          (fun element above => ⟨element, above.bind fun place => elements[place]?⟩)
          (items.map itemElement) (parentPlaces parent past.length (items.map Prod.snd))
  | [], _, _, _, _, _ => rfl
  | item :: items, past, nesting, parent, helements, h => by
    have hplace : elements[past.length]? = some (itemElement item) := by
      rw [helements, List.map_cons, List.getElem?_append_right (Nat.le_refl _), Nat.sub_self,
        List.getElem?_cons_zero]
    -- the node is past now
    have hrest := attachmentsFrom_eq items (past ++ [itemElement item]) (nesting.add item) _
      (by rw [helements, List.map_cons, List.append_assoc, List.singleton_append])
      (h.add hplace)
    rw [List.length_append, List.length_singleton] at hrest
    rw [attachmentsFrom, List.map_cons, List.map_cons, parentPlaces, List.zipWith_cons_cons,
      head?_closeTo, h item.2]
    exact congrArg _ hrest

/-! ## §3. Announcements and the forest. -/

section Placed

variable {items : List (Node × Nat)} (hchildless : ∀ item ∈ items, item.1.children = [])

include hchildless

/-- At a place of the forest stands the node that was read there. -/
theorem item_of_placed {place : Nat} {above : Option Nat} {node : Node}
    (h : (Node.placedAll none 0 (nest items))[place]? = some (above, node)) :
    ∃ depth, items[place]? = some (node.stripped, depth) := by
  obtain ⟨hnodes, -⟩ := placedAll_nest hchildless
  have hnode := congrArg (·[place]?) hnodes
  simp only [List.getElem?_map, h, Option.map_some] at hnode
  obtain ⟨⟨_, depth⟩, hitem, rfl⟩ := Option.map_eq_some_iff.mp hnode.symm
  exact ⟨depth, hitem⟩

/-- A parent stands before its children. -/
theorem parent_lt_of_placed {place outer : Nat} {node : Node}
    (h : (Node.placedAll none 0 (nest items))[place]? = some (some outer, node)) :
    outer < place := by
  have hparent := congrArg (·[place]?) (placedAll_nest hchildless).2
  simp only [List.getElem?_map, h, Option.map_some] at hparent
  exact (nearestShallower_of_parentPlaces hparent.symm).lt

/-- **THE ANNOUNCEMENTS TELL THE FOREST.**  Announced at a place is the node that
stands there in the forest, and above it what was read at the place of the node that
is its parent in the forest. -/
theorem attachments_getElem? {place depth : Nat} {above : Option Nat} {node : Node}
    (h : (Node.placedAll none 0 (nest items))[place]? = some (above, node))
    (hitem : items[place]? = some (node.stripped, depth)) :
    (attachments items)[place]?
      = some ⟨⟨node.tag, depth⟩, above.bind fun outer => (items.map itemElement)[outer]?⟩ := by
  have hparent := congrArg (·[place]?) (placedAll_nest hchildless).2
  simp only [List.getElem?_map, h, Option.map_some] at hparent
  have hrun := attachmentsFrom_eq items [] {} _ rfl (offers_nothing (items.map itemElement))
  unfold attachments
  rw [hrun, List.getElem?_zipWith, List.getElem?_map, hitem, List.length_nil, ← hparent]
  rfl

end Placed

theorem length_attachmentsFrom :
    ∀ (items : List (Node × Nat)) (nesting : Nesting),
      (attachmentsFrom nesting items).length = items.length
  | [], _ => rfl
  | item :: items, nesting => by
    rw [attachmentsFrom, List.length_cons, length_attachmentsFrom items, List.length_cons]

/-! ## §4. Announcements of roots. -/

/-- Whether an announcement ends with the words for a root. -/
def saysRoot (message : String) : Bool :=
  " is a root".toList.isSuffixOf message.toList

/-- What ends with a number ends with a digit. -/
theorem isDigit_of_getLast? {text : String} {n : Nat} {last : Char}
    (h : (text ++ toString n).toList.getLast? = some last) : last.isDigit = true := by
  have hdigits : (toString n).toList ≠ [] := by
    rw [Nat.toString_eq_repr, Nat.toList_repr]
    exact Nat.toDigits_ne_nil
  rw [String.toList_append, List.getLast?_append, List.getLast?_eq_some_getLast hdigits,
    Option.some_or] at h
  rw [← Option.some.inj h]
  exact Text.isDigit_of_mem_toString (List.getLast_mem hdigits)

/-- **ONLY ROOTS ARE CALLED ROOTS**: any other announcement ends with a digit. -/
theorem saysRoot_message (attachment : Attachment) :
    saysRoot attachment.message = attachment.parent.isNone := by
  obtain ⟨element, parent⟩ := attachment
  unfold saysRoot Attachment.message
  cases parent with
  | none =>
    rw [Option.isNone_none, List.isSuffixOf_iff_suffix, String.toList_append]
    exact List.suffix_append _ _
  | some outer =>
    rw [Option.isNone_some, ← Bool.not_eq_true]
    intro hsuffix
    obtain ⟨front, hfront⟩ := List.isSuffixOf_iff_suffix.mp hsuffix
    have hlast := congrArg List.getLast? hfront.symm
    rw [List.getLast?_append] at hlast
    simp only [← String.append_assoc] at hlast
    exact absurd (isDigit_of_getLast? hlast) (by decide)

end Forest

/-! ## §5. Roots of a forest. -/

namespace Node

mutual

/-- Below a node, nothing is without a parent. -/
theorem isNone_placed (outer place : Nat) :
    ∀ node : Node, ∀ entry ∈ node.placed (some outer) place, entry.1.isNone = false
  | ⟨tag, attrs, styles, text, children⟩, entry, hentry => by
    unfold placed at hentry
    rcases List.mem_cons.mp hentry with rfl | hentry
    · rfl
    · exact isNone_placedAll place (place + 1) children entry hentry

/-- ... nor in a forest below it. -/
theorem isNone_placedAll (outer place : Nat) :
    ∀ nodes : List Node, ∀ entry ∈ placedAll (some outer) place nodes, entry.1.isNone = false
  | [], _, hentry => by cases hentry
  | node :: rest, entry, hentry => by
    unfold placedAll at hentry
    rcases List.mem_append.mp hentry with hentry | hentry
    · exact isNone_placed outer place node entry hentry
    · exact isNone_placedAll outer (place + node.size) rest entry hentry

end

/-- **THE NODES WITHOUT A PARENT ARE THE ROOTS.** -/
theorem roots_placedAll :
    ∀ (nodes : List Node) (place : Nat),
      ((placedAll none place nodes).filter fun entry => entry.1.isNone).map Prod.snd = nodes
  | [], _ => rfl
  | ⟨tag, attrs, styles, text, children⟩ :: rest, place => by
    have hbelow : (placedAll (some place) (place + 1) children).filter
        (fun entry => entry.1.isNone) = [] := by
      refine List.filter_eq_nil_iff.mpr fun entry hentry => ?_
      rw [isNone_placedAll place (place + 1) children entry hentry]
      exact Bool.false_ne_true
    unfold placedAll placed
    rw [List.cons_append, List.filter_cons_of_pos rfl, List.filter_append, hbelow,
      List.nil_append, List.map_cons, roots_placedAll rest]

end Node

end MarkupShorthand
