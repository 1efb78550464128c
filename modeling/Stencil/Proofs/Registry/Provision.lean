import Mathlib.Data.List.Perm.Basic
import Stencil.Proofs.Registry.Edit

/-!
Values provided one after the other. A row of provisions goes through exactly when every pair is
acceptable by itself and no key comes twice; nothing in this condition speaks about the order.
-/

namespace Stencil.Registry

variable {registry next : Registry} {pairs : List (String × Value)}

/-- Provides values in order. The first one that is refused ends the row. -/
def provideAll (registry : Registry) (pairs : List (String × Value)) :
    Except TemplateError Registry :=
  pairs.foldlM (fun registry pair => registry.provide pair.1 pair.2) registry

theorem provideAll_cons (registry : Registry) (pair : String × Value)
    (rest : List (String × Value)) :
    registry.provideAll (pair :: rest) =
      (registry.provide pair.1 pair.2).bind fun next => next.provideAll rest := rfl

theorem provideAll_append (registry : Registry) (pairs more : List (String × Value)) :
    registry.provideAll (pairs ++ more) =
      (registry.provideAll pairs).bind fun next => next.provideAll more :=
  List.foldlM_append

/-- A new entry: a value without a transform. -/
def freshEntry (pair : String × Value) : String × Replacer :=
  (pair.1, ⟨pair.2, none⟩)

/-- Pairs that a registry takes in any order: identifiers that the declarations admit with their
values, all different from each other and from the keys that are taken. -/
structure Acceptable (registry : Registry) (pairs : List (String × Value)) : Prop where
  identifiers : ∀ pair ∈ pairs, isIdentifier pair.1 = true
  admitted : ∀ pair ∈ pairs, registry.admits pair.1 pair.2 = .ok ()
  nodup : (pairs.map (·.1)).Nodup
  untaken : ∀ pair ∈ pairs, pair.1 ∉ registry.keys

theorem Acceptable.perm {other : List (String × Value)} (h : registry.Acceptable pairs)
    (hperm : pairs.Perm other) : registry.Acceptable other where
  identifiers pair hpair := h.identifiers pair (hperm.mem_iff.mpr hpair)
  admitted pair hpair := h.admitted pair (hperm.mem_iff.mpr hpair)
  nodup := (hperm.map _).nodup_iff.mp h.nodup
  untaken pair hpair := h.untaken pair (hperm.mem_iff.mpr hpair)

private theorem acceptable_nil (registry : Registry) : registry.Acceptable [] where
  identifiers := by simp
  admitted := by simp
  nodup := by simp
  untaken := by simp

/-- The first pair is acceptable by itself, and the others are once it is there. -/
theorem acceptable_cons_iff {pair : String × Value} :
    registry.Acceptable (pair :: pairs) ↔
      (isIdentifier pair.1 = true ∧ registry.admits pair.1 pair.2 = .ok () ∧
        pair.1 ∉ registry.keys) ∧
      { registry with entries := registry.entries ++ [freshEntry pair] }.Acceptable pairs := by
  have hadmits (key : String) (value : Value) :
      { registry with entries := registry.entries ++ [freshEntry pair] }.admits key value =
        registry.admits key value := admits_congr rfl key value
  have hkeys (key : String) :
      key ∈ { registry with entries := registry.entries ++ [freshEntry pair] }.keys ↔
        key ∈ registry.keys ∨ key = pair.1 := by
    simp [keys, freshEntry]
  constructor
  · intro h
    have hnodup := List.nodup_cons.mp h.nodup
    refine ⟨⟨h.identifiers pair (by simp), h.admitted pair (by simp), h.untaken pair (by simp)⟩,
      fun other hother => h.identifiers other (by simp [hother]), ?_, hnodup.2, ?_⟩
    · intro other hother
      rw [hadmits]
      exact h.admitted other (by simp [hother])
    · intro other hother htaken
      rcases (hkeys other.1).mp htaken with hold | hsame
      · exact h.untaken other (by simp [hother]) hold
      · exact hnodup.1 (List.mem_map.mpr ⟨other, hother, hsame⟩)
  · rintro ⟨⟨hkey, hadmitted, huntaken⟩, hrest⟩
    refine ⟨?_, ?_, ?_, ?_⟩
    · intro other hother
      rcases List.mem_cons.mp hother with rfl | hin
      · exact hkey
      · exact hrest.identifiers other hin
    · intro other hother
      rcases List.mem_cons.mp hother with rfl | hin
      · exact hadmitted
      · rw [← hadmits]
        exact hrest.admitted other hin
    · rw [List.map_cons, List.nodup_cons]
      refine ⟨?_, hrest.nodup⟩
      intro hmem
      obtain ⟨other, hother, hsame⟩ := List.mem_map.mp hmem
      exact hrest.untaken other hother ((hkeys other.1).mpr (Or.inr hsame))
    · intro other hother
      rcases List.mem_cons.mp hother with rfl | hin
      · exact huntaken
      · intro htaken
        exact hrest.untaken other hin ((hkeys other.1).mpr (Or.inl htaken))

theorem provideAll_eq_ok_iff :
    registry.provideAll pairs = .ok next ↔
      registry.Acceptable pairs ∧
        next = { registry with entries := registry.entries ++ pairs.map freshEntry } := by
  induction pairs generalizing registry with
  | nil =>
      have hnil : registry.provideAll [] = .ok registry := rfl
      rw [hnil]
      simp [acceptable_nil, eq_comm]
  | cons pair rest ih =>
      rw [provideAll_cons, acceptable_cons_iff]
      cases hprovide : registry.provide pair.1 pair.2 with
      | error e =>
          have hrefused : ¬ (isIdentifier pair.1 = true ∧ registry.admits pair.1 pair.2 = .ok () ∧
              pair.1 ∉ registry.keys) := by
            rintro ⟨hkey, hadmitted, huntaken⟩
            have hok := provide_eq_ok_iff.mpr ⟨hkey, hadmitted, huntaken, rfl⟩
            rw [hprovide] at hok
            cases hok
          simp [Except.bind, hrefused]
      | ok middle =>
          obtain ⟨hkey, hadmitted, huntaken, rfl⟩ := provide_eq_ok_iff.mp hprovide
          rw [Except.bind, ih]
          simp [hkey, hadmitted, huntaken, freshEntry]

/-- A row of provisions is a run of edits. -/
theorem edits_provideAll (h : registry.provideAll pairs = .ok next) : Edits registry next := by
  induction pairs generalizing registry with
  | nil =>
      obtain rfl := Except.ok.inj h
      exact Relation.ReflTransGen.refl
  | cons pair rest ih =>
      rw [provideAll_cons] at h
      cases hprovide : registry.provide pair.1 pair.2 with
      | error e =>
          rw [hprovide] at h
          cases h
      | ok middle =>
          rw [hprovide] at h
          exact Relation.ReflTransGen.head (Edit.provide hprovide) (ih h)

end Stencil.Registry
