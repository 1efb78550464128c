import Stencil.Config.Decode

/-!
How a configured value is read. An object with a `value` field, and with nothing besides it but a
`transform` that is a name or null, spells out a setting. Every other value is meant to be taken
as it is, with no transform. One kind of value is not: a list of two whose second item could be a
transform is taken apart like an object with the two fields.
-/

namespace Stencil.Setting

variable {fields : List (String × Value)} {value item : Value} {transform : Option String}
  {setting : Setting}

/-- What a transform field says: no transform where it is left out or null, else the one named. -/
inductive Names : Option Value → Option String → Prop where
  | absent : Names none none
  | null : Names (some .null) none
  | name (text : String) : Names (some (.string text)) (some text)

/-- Fields that spell out a value and perhaps a transform, and say nothing else. -/
structure Spells (fields : List (String × Value)) (value : Value) (transform : Option String) :
    Prop where
  value_eq : fields.lookup "value" = some value
  names : Names (fields.lookup "transform") transform
  only : ∀ field ∈ fields, field.1 = "value" ∨ field.1 = "transform"

/-- The setting that a value is meant to be read as. -/
inductive Meant : Value → Setting → Prop where
  | detailed {fields : List (String × Value)} {value : Value} {transform : Option String} :
      Spells fields value transform → Meant (.object fields) (.detailed value transform)
  | plain {value : Value} :
      (∀ fields, value = .object fields → ∀ held transform, ¬ Spells fields held transform) →
      Meant value (.plain value)

/-- A list of two items of which the second could be a transform, with the setting that has the
first for its value. -/
inductive Paired : Value → Setting → Prop where
  | mk {value item : Value} {transform : Option String} :
      Names (some item) transform → Paired (.array [value, item]) (.detailed value transform)

/-- Only an object can be meant as more than the value that it is. -/
theorem meant_plain (h : value.kind ≠ .object) : Meant value (.plain value) := by
  refine Meant.plain ?_
  rintro fields rfl
  exact absurd rfl h

theorem transformOf?_eq_some_iff :
    transformOf? item = some transform ↔ Names (some item) transform := by
  constructor
  · intro h
    cases item with
    | null =>
        cases h
        exact Names.null
    | string text =>
        cases h
        exact Names.name text
    | bool flag => cases h
    | number n => cases h
    | array items => cases h
    | object fields => cases h
  · intro h
    cases h with
    | null => rfl
    | name text => rfl

/-- A field that is left out says the same as null. -/
theorem transformOf?_getD_eq_some_iff {field : Option Value} :
    transformOf? (field.getD .null) = some transform ↔ Names field transform := by
  cases field with
  | some item => exact transformOf?_eq_some_iff
  | none =>
      rw [Option.getD_none]
      constructor
      · intro h
        cases h
        exact Names.absent
      · intro h
        cases h
        rfl

theorem detailedOf?_object_eq_some_iff :
    detailedOf? (.object fields) = some setting ↔
      ∃ value transform, Spells fields value transform ∧ setting = .detailed value transform := by
  rw [detailedOf?]
  by_cases honly : ∀ field ∈ fields, field.1 = "value" ∨ field.1 = "transform"
  · rw [if_pos (by simpa using honly)]
    constructor
    · intro h
      obtain ⟨value, hvalue, h⟩ := Option.bind_eq_some_iff.mp h
      obtain ⟨transform, htransform, h⟩ := Option.bind_eq_some_iff.mp h
      have hnames := transformOf?_getD_eq_some_iff.mp htransform
      exact ⟨value, transform, ⟨hvalue, hnames, honly⟩, (Option.some.inj h).symm⟩
    · rintro ⟨value, transform, hspells, rfl⟩
      have htransform := transformOf?_getD_eq_some_iff.mpr hspells.names
      simp [hspells.value_eq, htransform]
  · rw [if_neg (by simpa using honly)]
    constructor
    · intro h
      cases h
    · rintro ⟨value, transform, hspells, rfl⟩
      exact absurd hspells.only honly

theorem detailedOf?_array_eq_some_iff {items : List Value} :
    detailedOf? (.array items) = some setting ↔ Paired (.array items) setting := by
  constructor
  · intro h
    match items, h with
    | [value, item], h =>
        rw [detailedOf?] at h
        obtain ⟨transform, htransform, rfl⟩ := Option.map_eq_some_iff.mp h
        exact Paired.mk (transformOf?_eq_some_iff.mp htransform)
  · intro h
    cases h with
    | mk hnames =>
        rw [detailedOf?, transformOf?_eq_some_iff.mpr hnames]
        rfl

theorem ofValue_of_detailedOf? (h : detailedOf? value = some setting) :
    ofValue value = setting := by
  rw [ofValue, h, Option.getD_some]

theorem ofValue_of_none (h : detailedOf? value = none) : ofValue value = .plain value := by
  rw [ofValue, h, Option.getD_none]

theorem ofValue_of_paired (h : Paired value setting) : ofValue value = setting := by
  cases h with
  | mk hnames => exact ofValue_of_detailedOf? (detailedOf?_array_eq_some_iff.mpr (Paired.mk hnames))

/-- The setting of a list of two holds an item in place of the list, which is never meant. -/
theorem not_meant_of_paired (h : Paired value setting) : ¬ Meant value setting := by
  cases h with
  | mk _ => intro hmeant; cases hmeant

theorem meant_ofValue (h : ∀ setting, ¬ Paired value setting) : Meant value (ofValue value) := by
  cases value with
  | object fields =>
      cases hdetailed : detailedOf? (.object fields) with
      | some setting =>
          rw [ofValue_of_detailedOf? hdetailed]
          obtain ⟨value, transform, hspells, rfl⟩ := detailedOf?_object_eq_some_iff.mp hdetailed
          exact Meant.detailed hspells
      | none =>
          rw [ofValue_of_none hdetailed]
          refine Meant.plain ?_
          rintro other heq value transform hspells
          cases heq
          have hsome := detailedOf?_object_eq_some_iff.mpr ⟨value, transform, hspells, rfl⟩
          rw [hdetailed] at hsome
          cases hsome
  | array items =>
      have hnone : detailedOf? (.array items) = none := by
        cases hdetailed : detailedOf? (.array items) with
        | none => rfl
        | some setting => exact absurd (detailedOf?_array_eq_some_iff.mp hdetailed) (h setting)
      rw [ofValue_of_none hnone]
      exact meant_plain (by simp [Value.kind])
  | null => exact meant_plain (by simp [Value.kind])
  | bool flag => exact meant_plain (by simp [Value.kind])
  | number n => exact meant_plain (by simp [Value.kind])
  | string text => exact meant_plain (by simp [Value.kind])

/-- A value is read as it is meant unless it is a list of two whose second item is a text or null.
Such a list is read as its first item, with the second for the transform. -/
theorem ofValue_meant_iff (value : Value) :
    (Meant value (ofValue value) ↔ ∀ setting, ¬ Paired value setting) ∧
      ∀ setting, Paired value setting → ofValue value = setting := by
  refine ⟨⟨?_, meant_ofValue⟩, fun _ => ofValue_of_paired⟩
  intro hmeant setting hpaired
  rw [ofValue_of_paired hpaired] at hmeant
  exact not_meant_of_paired hpaired hmeant

/-- A list of two names, configured as it is, becomes the first name in another letter case. -/
theorem ofValue_names :
    let names : Value := .array [.string "user controller", .string "pascalcase"]
    ofValue names = .detailed (.string "user controller") (some "pascalcase") ∧
      Meant names (.plain names) ∧ ¬ Meant names (ofValue names) := by
  intro names
  have hpaired : Paired names (.detailed (.string "user controller") (some "pascalcase")) :=
    Paired.mk (Names.name "pascalcase")
  have hread := ofValue_of_paired hpaired
  refine ⟨hread, meant_plain (by simp [names, Value.kind]), ?_⟩
  rw [hread]
  exact not_meant_of_paired hpaired

end Stencil.Setting
