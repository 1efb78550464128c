import Stencil.Proofs.Registry.Edit

/-!
What a registry promises for as long as it lives. Besides the two edits a registry can only be given
another marker. None of the three takes away a value or puts another one in its place, so the pairs
of keys and values only grow at the end, and none lets in a value that the declarations do not
admit.
-/

namespace Stencil.Registry

variable {registry next : Registry} {key marker : String} {value : Value}
  {transform : Option (Value → String)}

/-- The keys with their values, in the order of provision. -/
def pairs (registry : Registry) : List (String × Value) :=
  registry.entries.map fun (key, replacer) => (key, replacer.value)

theorem keys_eq_map_pairs (registry : Registry) : registry.keys = registry.pairs.map (·.1) := by
  simp [keys, pairs]

theorem map_value_setTransform (key : String) (transform : Option (Value → String))
    (entries : List (String × Replacer)) :
    ((setTransform key transform entries).map fun entry => (entry.1, entry.2.value)) =
      entries.map fun entry => (entry.1, entry.2.value) := by
  induction entries with
  | nil => rfl
  | cons entry rest ih =>
      obtain ⟨name, replacer⟩ := entry
      rw [setTransform]
      split
      · rfl
      · simp [ih]

theorem pairs_of_provide (h : registry.provide key value = .ok next) :
    next.pairs = registry.pairs ++ [(key, value)] := by
  obtain ⟨-, -, -, rfl⟩ := provide_eq_ok_iff.mp h
  simp [pairs]

theorem pairs_of_attach (h : registry.attach key transform = .ok next) :
    next.pairs = registry.pairs := by
  obtain ⟨-, rfl⟩ := attach_eq_ok_iff.mp h
  exact map_value_setTransform key transform registry.entries

theorem admits_eq_ok_iff :
    registry.admits key value = .ok () ↔ registry.declared ≠ [] →
      ∃ declaration, registry.declared.find? (·.key == key) = some declaration ∧
        declaration.kind = value.kind := by
  constructor
  · intro hadmits hdeclared
    cases hfound : registry.declared.find? (·.key == key) with
    | none => simp [admits, hdeclared, hfound] at hadmits
    | some declaration =>
        rw [admits_of_declared hfound] at hadmits
        by_cases hkind : declaration.kind = value.kind
        · exact ⟨declaration, rfl, hkind⟩
        · simp [hkind] at hadmits
  · intro hadmitted
    by_cases hdeclared : registry.declared = []
    · simp [admits, hdeclared]
    · obtain ⟨declaration, hfound, hkind⟩ := hadmitted hdeclared
      rw [admits_of_declared hfound, if_pos hkind]

/-- A well-formed registry that keeps to its declarations. When it has any, each key is a declared
one, and its value is of the kind with which the key is declared first. -/
structure Conforms (registry : Registry) : Prop extends WellFormed registry where
  admitted : registry.declared ≠ [] → ∀ pair ∈ registry.pairs, ∃ declaration,
    registry.declared.find? (·.key == pair.1) = some declaration ∧
      declaration.kind = pair.2.kind

theorem conforms_new (hmarker : marker ≠ "") (declared : List Declaration) :
    (new marker declared).Conforms where
  toWellFormed := wellFormed_new hmarker declared
  admitted _ _ hpair := absurd hpair List.not_mem_nil

theorem Conforms.key_declared (h : registry.Conforms) (hdeclared : registry.declared ≠ [])
    (hkey : key ∈ registry.keys) : key ∈ registry.declared.map (·.key) := by
  rw [keys_eq_map_pairs] at hkey
  obtain ⟨pair, hpair, rfl⟩ := List.mem_map.mp hkey
  obtain ⟨declaration, hfound, -⟩ := h.admitted hdeclared pair hpair
  have hname := List.find?_some hfound
  rw [beq_iff_eq] at hname
  exact List.mem_map.mpr ⟨declaration, List.mem_of_find?_eq_some hfound, hname⟩

/-! Everything that happens to a registry. -/

inductive Change : Registry → Registry → Prop where
  | edit {registry next : Registry} : Edit registry next → Change registry next
  | marker {registry next : Registry} {marker : String} :
      registry.withMarker marker = .ok next → Change registry next

/-- What a registry can become, also under other markers. -/
abbrev Changes : Registry → Registry → Prop := Relation.ReflTransGen Change

theorem Edits.changes (h : Edits registry next) : Changes registry next := by
  induction h with
  | refl => exact Relation.ReflTransGen.refl
  | tail _ hlast ih => exact ih.tail (Change.edit hlast)

theorem Change.declared_eq (h : Change registry next) : next.declared = registry.declared := by
  cases h with
  | edit h => exact h.declared_eq
  | marker h => rw [(withMarker_eq_ok_iff.mp h).2]

theorem Edit.pairs_prefix (h : Edit registry next) : registry.pairs <+: next.pairs := by
  cases h with
  | provide h =>
      rw [pairs_of_provide h]
      exact List.prefix_append _ _
  | attach h => exact ⟨[], by rw [List.append_nil, pairs_of_attach h]⟩

theorem Change.pairs_prefix (h : Change registry next) : registry.pairs <+: next.pairs := by
  cases h with
  | edit h => exact h.pairs_prefix
  | marker h =>
      obtain ⟨-, rfl⟩ := withMarker_eq_ok_iff.mp h
      exact List.prefix_refl _

theorem Edit.conforms (h : Edit registry next) (hregistry : registry.Conforms) :
    next.Conforms := by
  have hwellFormed := h.wellFormed hregistry.toWellFormed
  refine ⟨hwellFormed, ?_⟩
  rw [h.declared_eq]
  intro hdeclared pair hpair
  cases h with
  | provide h =>
      rw [pairs_of_provide h] at hpair
      rcases List.mem_append.mp hpair with hold | hnew
      · exact hregistry.admitted hdeclared pair hold
      · obtain rfl := List.mem_singleton.mp hnew
        exact admits_eq_ok_iff.mp (provide_eq_ok_iff.mp h).2.1 hdeclared
  | attach h =>
      rw [pairs_of_attach h] at hpair
      exact hregistry.admitted hdeclared pair hpair

theorem Change.conforms (h : Change registry next) (hregistry : registry.Conforms) :
    next.Conforms := by
  cases h with
  | edit h => exact h.conforms hregistry
  | marker h =>
      obtain ⟨hmarker, rfl⟩ := withMarker_eq_ok_iff.mp h
      exact ⟨⟨hmarker, hregistry.nodup, hregistry.identifiers⟩, hregistry.admitted⟩

theorem Changes.declared_eq (h : Changes registry next) : next.declared = registry.declared := by
  induction h with
  | refl => rfl
  | tail _ hlast ih => exact hlast.declared_eq.trans ih

theorem Changes.pairs_prefix (h : Changes registry next) : registry.pairs <+: next.pairs := by
  induction h with
  | refl => exact List.prefix_refl _
  | tail _ hlast ih => exact ih.trans hlast.pairs_prefix

theorem Changes.conforms (h : Changes registry next) (hregistry : registry.Conforms) :
    next.Conforms := by
  induction h with
  | refl => exact hregistry
  | tail _ hlast ih => exact hlast.conforms ih

end Stencil.Registry
