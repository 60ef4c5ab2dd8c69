/-
  MarkupShorthand.Proofs.Dialect.StyleObject
  ──────────────────────────────────────────
  **INSIDE ITS OUTER BRACES A STYLE ATTRIBUTE OF COMPONENT TEMPLATES IS A JSON
  OBJECT, AND IT IS READ AS THE DECLARATIONS THAT WERE WRITTEN.**

  The object is neither the compact nor the pretty text of a map: it has spaces
  inside its braces and behind its colons and commas.  They leave no tokens, so it
  is cut like those two texts:

      scans_componentDeclaration    a declaration, like a member with a string
      scans_componentObject         the object, like the map in compact form

  Properties and values may hold anything, braces, commas and quotes included,
  since a JSON string shows where it ends.
-/
import MarkupShorthand.Dialect.Component
import MarkupShorthand.Proofs.Snapshot.Nesting

namespace MarkupShorthand.Dialect

open Json

/-! ## §1. The object as tokens. -/

/-- The object of declarations, as it stands in a style attribute. -/
def componentObject (styles : Styles) : String :=
  "\x7b " ++ componentStyleText styles ++ " \x7d"

theorem component_styleAttribute (styles : Styles) :
    component.styleAttribute styles = "style=\x7b" ++ componentObject styles ++ "\x7d" := by
  have hinner : component.styleAttribute styles
      = "style=\x7b\x7b " ++ componentStyleText styles ++ " \x7d\x7d" := rfl
  rw [hinner, ← String.toList_inj, componentObject]
  simp only [String.toList_append, List.append_assoc]
  rfl

/-- **STEP**: a declaration is cut like a member whose value is a string. -/
theorem scans_componentDeclaration (entry : String × String) :
    Scans (componentDeclaration entry).toList
      [.string (some entry.1), .colon, .string (some entry.2)] :=
  Value.scans_member scans_spacedColon entry.1 (scans_quoted entry.2)

/-- **RUN**: ... all declarations. -/
theorem scansAll_componentDeclarations :
    ∀ entries : List (String × String),
      ScansAll (entries.map componentDeclaration)
        (Value.memberTokens (entries.map fun (property, value) => (property, .string value)))
  | [] => .nil
  | entry :: entries =>
    .cons (scans_componentDeclaration entry) (scansAll_componentDeclarations entries)

/-- The object is cut into the tokens of the map. -/
theorem scans_componentObject (styles : Styles) :
    Scans (componentObject styles).toList styles.toJson.tokens := by
  have hopening : Scans "\x7b ".toList [.openObject] := scans_openObject.append_none scans_space
  have hcomma : Scans ", ".toList [.comma] := scans_comma.append_none scans_space
  have hclosing : Scans " \x7d".toList [.closeObject] := scans_space.append scans_closeObject
  have hentries := (scansAll_componentDeclarations styles.entries).intercalate hcomma
  unfold OrderedMap.toJson Value.tokens
  exact Value.scans_enclosed hopening hclosing hentries

/-! ## §2. The object read back. -/

theorem read_componentObject (styles : Styles) :
    Json.read (componentObject styles) = ⟨styles.toJson.reading, false⟩ :=
  Value.read_of_scans (scans_componentObject styles)

theorem map_of_componentObject (styles : Styles) :
    OrderedMap.read (componentObject styles) = .ok styles := by
  have hwanted := OrderedMap.ofReading_toJson Snapshot.deepestNesting styles
  rw [if_neg (by decide)] at hwanted
  unfold OrderedMap.read Text.want
  rw [read_componentObject, hwanted]
  rfl

/-- The attribute shows the object in it. -/
theorem componentObject_inj {styles other : Styles}
    (h : component.styleAttribute styles = component.styleAttribute other) :
    componentObject styles = componentObject other := by
  rw [component_styleAttribute, component_styleAttribute, ← String.toList_inj] at h
  simp only [String.toList_append] at h
  exact String.toList_inj.mp (List.append_cancel_left (List.append_cancel_right h))

/-- **STYLE ATTRIBUTES OF COMPONENT TEMPLATES ARE READ BACK.**  Between `style=` with
an opening brace and a closing brace stands a JSON object, with nothing behind it.  Its
members are the declarations in their order, each property with its value, and read as
a map of texts it is the style block again, whatever properties and values hold and
however many there are.  So different style blocks have different attributes. -/
theorem component_styles_read_back :
    (∀ styles : Styles, ∃ object,
        component.styleAttribute styles = "style=\x7b" ++ object ++ "\x7d"
          ∧ Json.read object
              = ⟨.object (styles.entries.map fun (property, value) =>
                  (some property, .string (some value))) none, false⟩
          ∧ OrderedMap.read object = .ok styles)
      ∧ ∀ styles other : Styles,
          component.styleAttribute styles = component.styleAttribute other ↔ styles = other := by
  constructor
  · intro styles
    refine ⟨componentObject styles, component_styleAttribute styles, ?_,
      map_of_componentObject styles⟩
    rw [read_componentObject, OrderedMap.reading_toJson]
  · intro styles other
    constructor
    · intro h
      -- the same object is read as both
      have hread := map_of_componentObject styles
      rw [componentObject_inj h, map_of_componentObject] at hread
      exact (Except.ok.inj hread).symm
    · rintro rfl
      rfl

/-- A value that ends like the attribute, and one with a control character. -/
example :
    component.styleAttribute (.ofPairs [("content", "\"\x7d\x7d"), ("", "\x01")])
      = "style=\x7b\x7b \"content\": \"\\\"\x7d\x7d\", \"\": \"\\u0001\" \x7d\x7d" := by
  decide

end MarkupShorthand.Dialect
