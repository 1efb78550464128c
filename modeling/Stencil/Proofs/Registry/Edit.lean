import Mathlib.Data.List.Nodup
import Mathlib.Logic.Relation
import Stencil.Template

/-!
What the operations on a registry do to it. Providing a value and attaching a transform are the only
two edits; a body and a step from outside both come down to a run of edits. Whatever an edit keeps
is therefore kept by everything that can happen to a registry, and `Registry.WellFormed` is.
-/

namespace Stencil.Registry

variable {registry next other : Registry} {key marker : String} {value : Value}
  {transform : Option (Value → String)}

/-- The registries on which placeholders mean what they should: the marker is not empty, and the
keys are identifiers of which no two are equal. -/
structure WellFormed (registry : Registry) : Prop where
  marker_ne : registry.marker ≠ ""
  nodup : registry.keys.Nodup
  identifiers : ∀ key ∈ registry.keys, isIdentifier key = true

theorem wellFormed_new (hmarker : marker ≠ "") (declared : List Declaration) :
    (new marker declared).WellFormed where
  marker_ne := hmarker
  nodup := List.nodup_nil
  identifiers _ hkey := absurd hkey List.not_mem_nil

theorem contains_iff : registry.contains key = true ↔ key ∈ registry.keys := by
  simp [contains, keys]

theorem not_contains_iff : registry.contains key = false ↔ key ∉ registry.keys := by
  rw [← contains_iff, Bool.not_eq_true]

theorem contains_congr (hkeys : ∀ key, key ∈ registry.keys ↔ key ∈ other.keys) (key : String) :
    registry.contains key = other.contains key := by
  rw [Bool.eq_iff_iff, contains_iff, contains_iff]
  exact hkeys key

theorem admits_congr (hdeclared : registry.declared = other.declared) (key : String)
    (value : Value) : registry.admits key value = other.admits key value := by
  simp only [admits, hdeclared]

theorem admits_of_declared {declaration : Declaration}
    (hfound : registry.declared.find? (·.key == key) = some declaration) (value : Value) :
    registry.admits key value =
      if declaration.kind = value.kind then .ok ()
      else .error (.valueKindMismatch key declaration.kind value.kind) := by
  have hne : registry.declared.isEmpty = false := by
    cases hdeclared : registry.declared with
    | nil => simp [hdeclared] at hfound
    | cons first rest => rfl
  rw [admits, hne, hfound]
  rfl

theorem provide_of_invalid (hkey : isIdentifier key = false) :
    registry.provide key value = .error (.invalidKey key) := by
  simp [provide, hkey]

theorem provide_of_not_admitted {e : TemplateError} (hkey : isIdentifier key = true)
    (hadmits : registry.admits key value = .error e) :
    registry.provide key value = .error e := by
  simp [provide, hkey, hadmits]

theorem provide_of_taken (hkey : isIdentifier key = true)
    (hadmits : registry.admits key value = .ok ()) (htaken : key ∈ registry.keys) :
    registry.provide key value = .error (.duplicateProvision key) := by
  have hcontains := contains_iff.mpr htaken
  simp [provide, hkey, hadmits, hcontains]

theorem withMarker_eq_ok_iff :
    registry.withMarker marker = .ok next ↔
      marker ≠ "" ∧ next = { registry with marker := marker } := by
  have hempty : marker.isEmpty = true ↔ marker = "" := String.isEmpty_iff
  rw [withMarker]
  by_cases hmarker : marker = ""
  · rw [if_pos (hempty.mpr hmarker)]
    simp [hmarker]
  · rw [if_neg (fun h => hmarker (hempty.mp h))]
    simp [hmarker, eq_comm]

/-- A value is provided exactly when nothing speaks against it, and then it comes last and without
a transform. -/
theorem provide_eq_ok_iff :
    registry.provide key value = .ok next ↔
      isIdentifier key = true ∧ registry.admits key value = .ok () ∧ key ∉ registry.keys ∧
        next = { registry with entries := registry.entries ++ [(key, ⟨value, none⟩)] } := by
  rw [← not_contains_iff, provide]
  cases hkey : isIdentifier key with
  | false => simp
  | true =>
      cases hadmits : registry.admits key value with
      | error e => simp
      | ok _ =>
          cases hcontains : registry.contains key with
          | true => simp
          | false => simp [eq_comm]

theorem attach_eq_ok_iff :
    registry.attach key transform = .ok next ↔
      key ∈ registry.keys ∧
        next = { registry with entries := setTransform key transform registry.entries } := by
  rw [← contains_iff, attach]
  cases hcontains : registry.contains key with
  | true => simp [eq_comm]
  | false => simp

theorem request_of_resolve {choice : TransformChoice} (h : choice.resolve = .ok transform) :
    registry.request key choice =
      (registry.attach key transform).map fun next => (next.placeholder key, next) := by
  rw [request, h]

theorem request_of_unknown {choice : TransformChoice} {e : TemplateError}
    (h : choice.resolve = .error e) : registry.request key choice = .error e := by
  rw [request, h]

theorem request_eq_ok_iff {choice : TransformChoice} {text : String} :
    registry.request key choice = .ok (text, next) ↔
      ∃ transform, choice.resolve = .ok transform ∧ registry.attach key transform = .ok next ∧
        text = next.placeholder key := by
  cases hchoice : choice.resolve with
  | error e => simp [request_of_unknown hchoice]
  | ok transform =>
      rw [request_of_resolve hchoice]
      cases hattach : registry.attach key transform with
      | error e => simp [Except.map, hattach]
      | ok found =>
          simp only [Except.map, Except.ok.injEq, Prod.mk.injEq, exists_eq_left', hattach]
          constructor
          · rintro ⟨rfl, rfl⟩
            exact ⟨rfl, rfl⟩
          · rintro ⟨rfl, rfl⟩
            exact ⟨rfl, rfl⟩

/-- Keys that come in addition do not stand in the way of a request. -/
theorem request_of_keys_subset {choice : TransformChoice} {text : String}
    (hkeys : registry.keys ⊆ other.keys) (h : registry.request key choice = .ok (text, next)) :
    ∃ answer, other.request key choice = .ok answer := by
  obtain ⟨transform, hchoice, hattach, -⟩ := request_eq_ok_iff.mp h
  have hkey := hkeys (attach_eq_ok_iff.mp hattach).1
  exact ⟨(_, _), request_eq_ok_iff.mpr
    ⟨transform, hchoice, attach_eq_ok_iff.mpr ⟨hkey, rfl⟩, rfl⟩⟩

/-- The fault for which a value is refused depends on the declarations and on which keys are
taken. -/
theorem provide_error_congr {e : TemplateError} (hdeclared : registry.declared = other.declared)
    (hkeys : ∀ key, key ∈ registry.keys ↔ key ∈ other.keys)
    (h : registry.provide key value = .error e) : other.provide key value = .error e := by
  rw [provide, admits_congr hdeclared, contains_congr hkeys] at h
  rw [provide]
  cases hkey : isIdentifier key with
  | false => simpa [hkey] using h
  | true =>
      cases hadmits : other.admits key value with
      | error f => simpa [hkey, hadmits] using h
      | ok _ =>
          cases hcontains : other.contains key with
          | true => simpa [hkey, hadmits, hcontains] using h
          | false => simp [hkey, hadmits, hcontains] at h

/-- So does the fault for which a placeholder is not given, and the declarations have no part in
it. -/
theorem request_error_congr {choice : TransformChoice} {e : TemplateError}
    (hkeys : ∀ key, key ∈ registry.keys ↔ key ∈ other.keys)
    (h : registry.request key choice = .error e) : other.request key choice = .error e := by
  cases hchoice : choice.resolve with
  | error f =>
      rw [request_of_unknown hchoice] at h ⊢
      exact h
  | ok transform =>
      rw [request_of_resolve hchoice, attach, contains_congr hkeys] at h
      rw [request_of_resolve hchoice, attach]
      cases hcontains : other.contains key with
      | false => simpa [hcontains, Except.map] using h
      | true => simp [hcontains, Except.map] at h

/-! The entries after a transform was set. -/

theorem map_fst_setTransform (key : String) (transform : Option (Value → String))
    (entries : List (String × Replacer)) :
    (setTransform key transform entries).map (·.1) = entries.map (·.1) := by
  induction entries with
  | nil => rfl
  | cons entry rest ih =>
      obtain ⟨name, replacer⟩ := entry
      rw [setTransform]
      split
      · rfl
      · simp [ih]

/-- When no two entries have the same key, setting a transform changes every entry of the key. -/
theorem setTransform_eq_map {entries : List (String × Replacer)}
    (hnodup : (entries.map (·.1)).Nodup) :
    setTransform key transform entries = entries.map fun entry =>
      if entry.1 = key then (entry.1, { entry.2 with transform := transform }) else entry := by
  induction entries with
  | nil => rfl
  | cons entry rest ih =>
      obtain ⟨name, replacer⟩ := entry
      rw [List.map_cons, List.nodup_cons] at hnodup
      rw [setTransform, List.map_cons]
      by_cases hname : name = key
      · have hrest : ∀ entry ∈ rest, entry.1 ≠ key := by
          intro entry hentry heq
          exact hnodup.1 (List.mem_map.mpr ⟨entry, hentry, heq.trans hname.symm⟩)
        rw [if_pos hname, if_pos hname]
        congr 1
        rw [List.map_congr_left fun entry hentry => if_neg (hrest entry hentry), List.map_id']
      · rw [if_neg hname, if_neg hname, ih hnodup.2]

theorem setTransform_append_right {before : List (String × Replacer)}
    (hkey : key ∉ before.map (·.1)) (transform : Option (Value → String))
    (after : List (String × Replacer)) :
    setTransform key transform (before ++ after) =
      before ++ setTransform key transform after := by
  induction before with
  | nil => rfl
  | cons entry rest ih =>
      obtain ⟨name, replacer⟩ := entry
      simp only [List.map_cons, List.mem_cons, not_or] at hkey
      rw [List.cons_append, setTransform, if_neg (Ne.symm hkey.1), ih hkey.2, List.cons_append]

/-! Edits, one at a time and in a row. -/

inductive Edit : Registry → Registry → Prop where
  | provide {registry next : Registry} {key : String} {value : Value} :
      registry.provide key value = .ok next → Edit registry next
  | attach {registry next : Registry} {key : String} {transform : Option (Value → String)} :
      registry.attach key transform = .ok next → Edit registry next

/-- What a registry can become. -/
abbrev Edits : Registry → Registry → Prop := Relation.ReflTransGen Edit

theorem Edit.marker_eq (h : Edit registry next) : next.marker = registry.marker := by
  cases h with
  | provide h => rw [(provide_eq_ok_iff.mp h).2.2.2]
  | attach h => rw [(attach_eq_ok_iff.mp h).2]

theorem Edit.declared_eq (h : Edit registry next) : next.declared = registry.declared := by
  cases h with
  | provide h => rw [(provide_eq_ok_iff.mp h).2.2.2]
  | attach h => rw [(attach_eq_ok_iff.mp h).2]

theorem Edit.wellFormed (h : Edit registry next) (hregistry : registry.WellFormed) :
    next.WellFormed := by
  cases h with
  | provide h =>
      obtain ⟨hkey, -, hfresh, rfl⟩ := provide_eq_ok_iff.mp h
      refine ⟨hregistry.marker_ne, ?_, ?_⟩
      · simpa [keys] using hregistry.nodup.concat hfresh
      · intro name hname
        simp only [keys, List.map_append, List.map_cons, List.map_nil] at hname
        rcases List.mem_append.mp hname with hold | hnew
        · exact hregistry.identifiers name hold
        · rwa [List.mem_singleton.mp hnew]
  | attach h =>
      obtain ⟨-, rfl⟩ := attach_eq_ok_iff.mp h
      refine ⟨hregistry.marker_ne, ?_, ?_⟩
      · rw [keys, map_fst_setTransform]
        exact hregistry.nodup
      · rw [keys, map_fst_setTransform]
        exact hregistry.identifiers

theorem Edit.keys_subset (h : Edit registry next) : registry.keys ⊆ next.keys := by
  cases h with
  | provide h =>
      obtain ⟨-, -, -, rfl⟩ := provide_eq_ok_iff.mp h
      simp [keys]
  | attach h =>
      obtain ⟨-, rfl⟩ := attach_eq_ok_iff.mp h
      simp [keys, map_fst_setTransform]

theorem Edits.marker_eq (h : Edits registry next) : next.marker = registry.marker := by
  induction h with
  | refl => rfl
  | tail _ hlast ih => exact hlast.marker_eq.trans ih

theorem Edits.declared_eq (h : Edits registry next) : next.declared = registry.declared := by
  induction h with
  | refl => rfl
  | tail _ hlast ih => exact hlast.declared_eq.trans ih

theorem Edits.wellFormed (h : Edits registry next) (hregistry : registry.WellFormed) :
    next.WellFormed := by
  induction h with
  | refl => exact hregistry
  | tail _ hlast ih => exact hlast.wellFormed ih

theorem Edits.keys_subset (h : Edits registry next) : registry.keys ⊆ next.keys := by
  induction h with
  | refl => exact List.Subset.refl _
  | tail _ hlast ih => exact List.Subset.trans ih hlast.keys_subset

theorem edits_of_request {choice : TransformChoice} {text : String}
    (h : registry.request key choice = .ok (text, next)) : Edits registry next := by
  obtain ⟨transform, -, hattach, -⟩ := request_eq_ok_iff.mp h
  exact Relation.ReflTransGen.single (Edit.attach hattach)

end Stencil.Registry

namespace Stencil.Action

open Registry (Edits)

theorem edits_run (registry : Registry) (action : Action) :
    Edits registry (action.run registry).2 := by
  cases action with
  | literal text => exact Relation.ReflTransGen.refl
  | request key choice =>
      rw [run]
      cases h : registry.request key choice with
      | error e => exact Relation.ReflTransGen.refl
      | ok answer => exact Registry.edits_of_request h
  | attach key choice =>
      rw [run]
      cases h : registry.request key choice with
      | error e => exact Relation.ReflTransGen.refl
      | ok answer => exact Registry.edits_of_request h
  | placeholder key => exact Relation.ReflTransGen.refl
  | provide key value =>
      rw [run]
      cases h : registry.provide key value with
      | error e => exact Relation.ReflTransGen.refl
      | ok next => exact Relation.ReflTransGen.single (Registry.Edit.provide h)
  | substitute text => exact Relation.ReflTransGen.refl
  | size => exact Relation.ReflTransGen.refl

theorem run_request_eq_error_iff {registry next : Registry} {key : String} {e : TemplateError}
    {choice : TransformChoice} :
    (request key choice).run registry = (.error e, next) ↔
      registry.request key choice = .error e ∧ next = registry := by
  rw [run]
  cases registry.request key choice with
  | error f => simp [eq_comm]
  | ok answer => simp

theorem run_attach_eq_error_iff {registry next : Registry} {key : String} {e : TemplateError}
    {choice : TransformChoice} :
    (attach key choice).run registry = (.error e, next) ↔
      registry.request key choice = .error e ∧ next = registry := by
  rw [run]
  cases registry.request key choice with
  | error f => simp [eq_comm]
  | ok answer => simp

theorem run_request_eq_ok_iff {registry next : Registry} {key text : String}
    {choice : TransformChoice} :
    (request key choice).run registry = (.ok text, next) ↔
      registry.request key choice = .ok (text, next) := by
  rw [run]
  cases registry.request key choice with
  | error e => simp
  | ok answer => simp [Prod.ext_iff]

theorem run_attach_eq_ok_iff {registry next : Registry} {key text : String}
    {choice : TransformChoice} :
    (attach key choice).run registry = (.ok text, next) ↔
      text = "" ∧ ∃ placeholder, registry.request key choice = .ok (placeholder, next) := by
  rw [run]
  cases registry.request key choice with
  | error e => simp
  | ok answer => simp [Prod.ext_iff, eq_comm]

/-- An action that fails changes nothing. -/
theorem eq_of_run_error {registry next : Registry} {action : Action} {e : TemplateError}
    (h : action.run registry = (.error e, next)) : next = registry := by
  cases action with
  | literal text => cases h
  | request key choice => exact (run_request_eq_error_iff.mp h).2
  | attach key choice => exact (run_attach_eq_error_iff.mp h).2
  | placeholder key => cases h
  | provide key value =>
      rw [run] at h
      cases hprovide : registry.provide key value with
      | error f =>
          rw [hprovide] at h
          cases h
          rfl
      | ok _ =>
          rw [hprovide] at h
          cases h
  | substitute text => exact (congrArg Prod.snd h).symm
  | size => cases h

theorem runAll_cons_of_ok {registry next : Registry} {action : Action} {text : String}
    (h : action.run registry = (.ok text, next)) (rest : List Action) :
    runAll registry (action :: rest) =
      ((runAll next rest).1.map (text ++ ·), (runAll next rest).2) := by
  rw [runAll, h]
  cases hrest : runAll next rest with
  | mk result last => cases result <;> simp [hrest, Except.map]

theorem runAll_cons_of_error {registry next : Registry} {action : Action} {e : TemplateError}
    (h : action.run registry = (.error e, next)) (rest : List Action) :
    runAll registry (action :: rest) = (.error e, next) := by
  rw [runAll, h]

theorem runAll_cons_eq_ok_iff {registry last : Registry} {action : Action} {rest : List Action}
    {content : String} :
    runAll registry (action :: rest) = (.ok content, last) ↔
      ∃ text next more, action.run registry = (.ok text, next) ∧
        runAll next rest = (.ok more, last) ∧ content = text ++ more := by
  cases hrun : action.run registry with
  | mk result next =>
      cases result with
      | error e => simp [runAll_cons_of_error hrun]
      | ok text =>
          rw [runAll_cons_of_ok hrun]
          cases hrest : runAll next rest with
          | mk answer last => cases answer <;> simp [hrest, Except.map, eq_comm, and_comm]

/-- A whole body, also one that fails on the way, is a run of edits. -/
theorem edits_runAll (registry : Registry) (actions : List Action) :
    Edits registry (runAll registry actions).2 := by
  induction actions generalizing registry with
  | nil => exact Relation.ReflTransGen.refl
  | cons action rest ih =>
      have hfirst := edits_run registry action
      cases hrun : action.run registry with
      | mk result next =>
          rw [hrun] at hfirst
          cases result with
          | error e =>
              rw [runAll_cons_of_error hrun]
              exact hfirst
          | ok text =>
              rw [runAll_cons_of_ok hrun]
              exact hfirst.trans (ih next)

end Stencil.Action
