/-
  MarkupShorthand.Proofs.StyleBlock
  ─────────────────────────────────
  **A STYLE BLOCK HOLDS TRIMMED DECLARATIONS, AND ANY SUCH DECLARATIONS CAN BE
  WRITTEN AS A BLOCK.**

      declaration?_eq_some_iff   which pieces declare something, and what
      declaration?_eq_some       what a piece declares is trimmed and stands in it
      declaration?_spaced        a trimmed property and value can be declared
      ofBlock_blockBody          a map of declarations is read back from its block
      ofBlock_declarations       of each property the first declaration decides about
                                 the place and the last one about the value
-/
import MarkupShorthand.Proofs.OrderedMap
import MarkupShorthand.Proofs.Text.Run
import MarkupShorthand.Proofs.Text.Trim
import MarkupShorthand.StyleBlock

namespace MarkupShorthand

open Text

/-! ## §1. One piece. -/

/-- A property and a value that a piece of a block can declare. -/
structure IsDeclaration (entry : String × String) : Prop where
  /-- The property is trimmed. -/
  property_visible : Visible entry.1.toList
  /-- The property ends at the first colon. -/
  property_free : ':' ∉ entry.1.toList
  /-- The value is trimmed. -/
  value_visible : Visible entry.2.toList

/-- What a piece declares: something that is not blank stands on both sides of the
first colon, and property and value are these two without the blanks around them. -/
def Declares (piece : List Char) (property value : String) : Prop :=
  ∃ before behind, trim piece = before ++ ':' :: behind ∧ ':' ∉ before
    ∧ trim before = property.toList ∧ trim behind = value.toList
    ∧ property ≠ "" ∧ value ≠ ""

/-- **A PIECE IS A DECLARATION EXACTLY IF IT DECLARES SOMETHING.** -/
theorem declaration?_eq_some_iff {piece : List Char} {property value : String} :
    declaration? piece = some (property, value) ↔ Declares piece property value := by
  constructor
  · intro h
    simp only [declaration?] at h
    split at h
    · cases h
    · next colon behind hdrop =>
      split at h
      · cases h
      · cases h
      · next hproperty hvalue =>
        rw [Option.some.injEq, Prod.mk.injEq] at h
        obtain ⟨rfl, rfl⟩ := h
        -- what ended the property is the first colon
        have hcolon : colon = ':' := dropWhile_bne_eq_cons hdrop
        subst hcolon
        refine ⟨(trim piece).takeWhile (· != ':'), behind, ?_, not_mem_takeWhile_bne ':' _,
          String.toList_ofList.symm, String.toList_ofList.symm,
          fun e => hproperty (String.ofList_eq_empty_iff.mp e),
          fun e => hvalue (String.ofList_eq_empty_iff.mp e)⟩
        rw [← hdrop, List.takeWhile_append_dropWhile]
  · rintro ⟨before, behind, htrim, hcolon, hproperty, hvalue, hpropertyNe, hvalueNe⟩
    unfold declaration?
    rw [htrim]
    simp only [takeWhile_cut hcolon, dropWhile_cut hcolon, hproperty, hvalue]
    -- neither side is empty, so the last case of the definition applies
    cases hp : property.toList with
    | nil => exact absurd (String.toList_eq_nil_iff.mp hp) hpropertyNe
    | cons c cs =>
      cases hv : value.toList with
      | nil => exact absurd (String.toList_eq_nil_iff.mp hv) hvalueNe
      | cons d ds =>
        show some (String.ofList (c :: cs), String.ofList (d :: ds)) = _
        rw [← hp, ← hv, String.ofList_toList, String.ofList_toList]

/-- What trimming leaves begins and ends visibly, if it leaves anything. -/
theorem visible_of_trim_eq {cs : List Char} {text : String} (h : trim cs = text.toList)
    (hne : text ≠ "") : Visible text.toList := by
  have hnil : trim cs ≠ [] := by
    rw [h]
    exact fun e => hne (String.toList_eq_nil_iff.mp e)
  rw [← h]
  exact visible_trim hnil

/-- **WHAT A PIECE DECLARES** is trimmed and stands in the piece. -/
theorem declaration?_eq_some {piece : List Char} {entry : String × String}
    (h : declaration? piece = some entry) :
    IsDeclaration entry ∧ ∀ c, c ∈ entry.1.toList ∨ c ∈ entry.2.toList → c ∈ piece := by
  obtain ⟨property, value⟩ := entry
  obtain ⟨before, behind, htrim, hcolon, hproperty, hvalue, hpropertyNe, hvalueNe⟩ :=
    declaration?_eq_some_iff.mp h
  refine ⟨⟨visible_of_trim_eq hproperty hpropertyNe, ?_, visible_of_trim_eq hvalue hvalueNe⟩, ?_⟩
  · show ':' ∉ property.toList
    rw [← hproperty]
    exact fun hmem => hcolon (mem_of_mem_trim hmem)
  · -- both sides are cut from the trimmed piece
    intro c hc
    rw [← hproperty, ← hvalue] at hc
    apply mem_of_mem_trim
    rw [htrim]
    rcases hc with hc | hc
    · exact List.mem_append_left _ (mem_of_mem_trim hc)
    · exact List.mem_append_right _ (List.mem_cons_of_mem ':' (mem_of_mem_trim hc))

/-- **A TRIMMED PROPERTY AND VALUE CAN BE DECLARED**, with blanks in front of each. -/
theorem declaration?_spaced {entry : String × String} (h : IsDeclaration entry)
    {gap inner : List Char} (hgap : IsGap gap) (hinner : IsGap inner) :
    declaration? (gap ++ (entry.1.toList ++ ':' :: (inner ++ entry.2.toList))) = some entry := by
  obtain ⟨property, value⟩ := entry
  obtain ⟨hproperty, hcolon, hvalue⟩ := h
  have htrim : trim (gap ++ (property.toList ++ ':' :: (inner ++ value.toList)))
      = property.toList ++ ':' :: (inner ++ value.toList) := by
    rw [trim_gap_append hgap]
    refine trim_eq_self (hproperty.starts.append hproperty.ne_nil)
      (endsVisible_append_of_ne_nil _ (List.cons_ne_nil _ _) ?_)
    exact endsVisible_append_of_ne_nil (':' :: inner) hvalue.ne_nil hvalue.ends
  refine declaration?_eq_some_iff.mpr ⟨property.toList, inner ++ value.toList, htrim, hcolon,
    hproperty.trim_eq, (trim_gap_append hinner _).trans hvalue.trim_eq, ?_, ?_⟩
  · exact fun e => hproperty.ne_nil (String.toList_eq_nil_iff.mpr e)
  · exact fun e => hvalue.ne_nil (String.toList_eq_nil_iff.mpr e)

/-! ## §2. A whole block. -/

/-- A property and a value that can be declared among others. -/
structure IsBlockDeclaration (entry : String × String) : Prop extends IsDeclaration entry where
  /-- The property is in one piece of the block. -/
  property_unsplit : ';' ∉ entry.1.toList
  /-- The value is in one piece of the block. -/
  value_unsplit : ';' ∉ entry.2.toList

namespace Styles

/-- What a block declares stands in it, between two `;`. -/
theorem mem_declarations {body : String} {entry : String × String}
    (h : entry ∈ declarations body) :
    IsDeclaration entry
      ∧ ∀ c, c ∈ entry.1.toList ∨ c ∈ entry.2.toList → c ∈ body.toList ∧ c ≠ ';' := by
  obtain ⟨piece, hpiece, hentry⟩ := List.mem_filterMap.mp h
  obtain ⟨hform, hchars⟩ := declaration?_eq_some hentry
  exact ⟨hform, fun c hc => mem_of_mem_splitOn hpiece (hchars c hc)⟩

theorem isBlockDeclaration_of_mem {body : String} {entry : String × String}
    (h : entry ∈ (ofBlock body).entries) : IsBlockDeclaration entry := by
  obtain ⟨hform, hchars⟩ := mem_declarations (OrderedMap.mem_entries_ofPairs h)
  exact ⟨hform, fun hmem => (hchars ';' (Or.inl hmem)).2 rfl,
    fun hmem => (hchars ';' (Or.inr hmem)).2 rfl⟩

/-- **STEP**: a declaration that is written in front of others is read in front of
them. -/
theorem declarations_written {entry : String × String} (h : IsBlockDeclaration entry)
    {gap inner : List Char} (hgap : IsGap gap) (hinner : IsGap inner) (rest : List Char) :
    ((gap ++ (entry.1.toList ++ ':' :: (inner ++ entry.2.toList)) ++ ';' :: rest).splitOn
        ';').filterMap declaration?
      = entry :: (rest.splitOn ';').filterMap declaration? := by
  obtain ⟨hform, hproperty, hvalue⟩ := h
  have hsemicolon : ∀ {blanks : List Char}, IsGap blanks → ';' ∉ blanks :=
    fun hblanks hmem => absurd (hblanks _ hmem) (by decide)
  have hpiece : ';' ∉ gap ++ (entry.1.toList ++ ':' :: (inner ++ entry.2.toList)) := by
    simp [hsemicolon hgap, hsemicolon hinner, hproperty, hvalue]
  rw [List.splitOn_append_cons_self_of_not_mem hpiece,
    List.filterMap_cons_some (declaration?_spaced hform hgap hinner)]

/-- The body of a block with these declarations.  It has one `;` more than it
has declarations, so that it is not empty. -/
def blockBody (entries : List (String × String)) : List Char :=
  entries.flatMap (fun entry => entry.1.toList ++ ':' :: entry.2.toList ++ [';']) ++ [';']

theorem declarations_blockBody :
    ∀ {entries : List (String × String)}, (∀ entry ∈ entries, IsBlockDeclaration entry) →
      ((blockBody entries).splitOn ';').filterMap declaration? = entries
  | [], _ => by decide
  | entry :: entries, h => by
    have hrest := declarations_blockBody fun other hother => h other (List.mem_cons_of_mem _ hother)
    have hbody : blockBody (entry :: entries)
        = [] ++ (entry.1.toList ++ ':' :: ([] ++ entry.2.toList)) ++ ';' :: blockBody entries := by
      simp [blockBody]
    rw [hbody, declarations_written (h entry List.mem_cons_self) isGap_nil isGap_nil, hrest]

/-- **A MAP OF DECLARATIONS IS READ BACK FROM ITS BLOCK.** -/
theorem ofBlock_blockBody {styles : Styles}
    (h : ∀ entry ∈ styles.entries, IsBlockDeclaration entry) :
    ofBlock (.ofList (blockBody styles.entries)) = styles := by
  unfold ofBlock declarations
  rw [String.toList_ofList, declarations_blockBody h]
  exact OrderedMap.ofPairs_entries styles

/-! ## §3. Blocks one behind the other. -/

/-- A `;` between two blocks ends a piece. -/
theorem declarations_append (body more : String) :
    declarations (body ++ ";" ++ more) = declarations body ++ declarations more := by
  have hchars : (body ++ ";" ++ more).toList = body.toList ++ ';' :: more.toList := by
    simp
  unfold declarations
  rw [hchars, List.splitOn_append_cons_self, List.filterMap_append]

/-- Where no piece declares anything, there are no declarations. -/
theorem declarations_eq_nil {body : String}
    (h : ∀ piece ∈ body.toList.splitOn ';', ∀ property value, ¬ Declares piece property value) :
    declarations body = [] := by
  refine List.filterMap_eq_nil_iff.mpr fun piece hpiece => ?_
  cases hdeclared : declaration? piece with
  | none => rfl
  | some entry => exact absurd (declaration?_eq_some_iff.mp hdeclared) (h piece hpiece _ _)

/-- **A BLOCK BEHIND A BLOCK** is written over it, one declaration after the
other. -/
theorem ofBlock_append (body more : String) :
    ofBlock (body ++ ";" ++ more) = (ofBlock body).setAll (ofBlock more).entries := by
  have hmore := OrderedMap.setAll_ofPairs (ofBlock body) (declarations more)
  unfold ofBlock at hmore ⊢
  rw [hmore, declarations_append]
  exact List.foldl_append

/-- **STYLE BLOCKS.**  A piece of a block counts exactly if it declares something.
The block has the properties that its pieces declare, each once and in the order of
first declarations, and of each property the value of the last declaration.  Pieces
that declare nothing leave no trace, wherever they stand.  A block behind another
one is the declarations of its own map written over the other one in order. -/
theorem ofBlock_declarations :
    (∀ piece property value,
        declaration? piece = some (property, value) ↔ Declares piece property value)
      ∧ (∀ body, (ofBlock body).keys = ((declarations body).map Prod.fst).eraseDups
          ∧ ∀ property, (ofBlock body).get? property
              = (OrderedMap.valuesAt property (declarations body)).getLast?)
      ∧ (∀ before malformed behind : String,
          (∀ piece ∈ malformed.toList.splitOn ';',
            ∀ property value, ¬ Declares piece property value) →
          ofBlock (malformed ++ ";" ++ behind) = ofBlock behind
            ∧ ofBlock (before ++ ";" ++ malformed) = ofBlock before
            ∧ ofBlock (before ++ ";" ++ malformed ++ ";" ++ behind)
                = ofBlock (before ++ ";" ++ behind))
      ∧ ∀ body more,
          ofBlock (body ++ ";" ++ more) = (ofBlock body).setAll (ofBlock more).entries := by
  refine ⟨fun piece property value => declaration?_eq_some_iff, ?_, ?_, ofBlock_append⟩
  · intro body
    exact ⟨OrderedMap.keys_ofPairs _, OrderedMap.get?_ofPairs _⟩
  · intro before malformed behind hmalformed
    have hnone := declarations_eq_nil hmalformed
    unfold ofBlock
    refine ⟨?_, ?_, ?_⟩
    · rw [declarations_append, hnone, List.nil_append]
    · rw [declarations_append, hnone, List.append_nil]
    · rw [declarations_append, declarations_append, declarations_append, hnone, List.append_nil]

/-- A property that is declared again behind pieces without a colon, without a
property and without a value. -/
theorem ofBlock_declarations_around_malformed :
    let before := "color: red; margin:0"
    let malformed := "color; : blue ;\u00a0margin: "
    let behind := "color : url(a:b)"
    (∀ piece ∈ malformed.toList.splitOn ';', ∀ property value, ¬ Declares piece property value)
      ∧ ofBlock (before ++ ";" ++ malformed ++ ";" ++ behind) = ofBlock (before ++ ";" ++ behind)
      ∧ (ofBlock (before ++ ";" ++ behind)).keys = ["color", "margin"]
      ∧ (ofBlock (before ++ ";" ++ behind)).get? "color" = some "url(a:b)"
      ∧ (ofBlock before).setAll (ofBlock behind).entries
          = OrderedMap.ofPairs [("color", "url(a:b)"), ("margin", "0")] := by
  intro before malformed behind
  obtain ⟨hpiece, hviews, hskip, happend⟩ := ofBlock_declarations
  have hmalformed : ∀ piece ∈ malformed.toList.splitOn ';',
      ∀ property value, ¬ Declares piece property value := by
    intro piece hmem property value hdeclares
    have hnone : ∀ piece ∈ malformed.toList.splitOn ';', declaration? piece = none := by
      decide +kernel
    have hsome := (hpiece piece property value).mpr hdeclares
    rw [hnone piece hmem] at hsome
    cases hsome
  obtain ⟨hkeys, hvalues⟩ := hviews (before ++ ";" ++ behind)
  exact ⟨hmalformed, (hskip before malformed behind hmalformed).2.2,
    hkeys.trans (by decide +kernel), (hvalues "color").trans (by decide +kernel),
    (happend before behind).symm.trans (by decide +kernel)⟩

end Styles

end MarkupShorthand
