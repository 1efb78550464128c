import Mathlib.Data.Set.Insert
import Stencil.Proofs.Registry.Edit

/-!
Registries that differ in the transforms of some keys. A later transform of a key takes the place of
an earlier one, transforms of different keys do not meet, and a value provided later is not touched
by what was attached before. So everything done to one registry can be done to the other, and once
transforms are attached anew to the keys in question the two are equal.
-/

namespace Stencil.Registry

variable {registry next other second : Registry} {key name : String} {value : Value}
  {transform earlier : Option (Value → String)} {keys : Set String}

theorem setTransform_setTransform (key : String) (transform earlier : Option (Value → String))
    (entries : List (String × Replacer)) :
    setTransform key transform (setTransform key earlier entries) =
      setTransform key transform entries := by
  induction entries with
  | nil => rfl
  | cons entry rest ih =>
      obtain ⟨other, replacer⟩ := entry
      by_cases hother : other = key
      · simp only [setTransform, if_pos hother]
      · simp only [setTransform, if_neg hother, ih]

theorem setTransform_comm (hne : key ≠ name) (transform earlier : Option (Value → String))
    (entries : List (String × Replacer)) :
    setTransform key transform (setTransform name earlier entries) =
      setTransform name earlier (setTransform key transform entries) := by
  induction entries with
  | nil => rfl
  | cons entry rest ih =>
      obtain ⟨other, replacer⟩ := entry
      by_cases hkey : other = key
      · have hname : other ≠ name := fun h => hne (hkey.symm.trans h)
        simp only [setTransform, if_pos hkey, if_neg hname]
      · by_cases hname : other = name
        · simp only [setTransform, if_neg hkey, if_pos hname]
        · simp only [setTransform, if_neg hkey, if_neg hname, ih]

theorem setTransform_append {entries : List (String × Replacer)}
    (hkey : key ∈ entries.map (·.1)) (transform : Option (Value → String))
    (more : List (String × Replacer)) :
    setTransform key transform (entries ++ more) = setTransform key transform entries ++ more := by
  induction entries with
  | nil => cases hkey
  | cons entry rest ih =>
      obtain ⟨other, replacer⟩ := entry
      rw [List.cons_append, setTransform, setTransform]
      by_cases hother : other = key
      · rw [if_pos hother, if_pos hother, List.cons_append]
      · have hrest : key ∈ rest.map (·.1) := by
          rcases List.mem_cons.mp hkey with rfl | hrest
          · exact absurd rfl hother
          · exact hrest
        rw [if_neg hother, if_neg hother, List.cons_append, ih hrest]

theorem keys_of_attach (hattach : registry.attach key transform = .ok next) :
    next.keys = registry.keys := by
  obtain ⟨-, rfl⟩ := attach_eq_ok_iff.mp hattach
  exact map_fst_setTransform key transform registry.entries

/-! What was attached before, and what is done next. -/

theorem attach_of_attach_self (hearlier : registry.attach key earlier = .ok other)
    (hattach : registry.attach key transform = .ok next) :
    other.attach key transform = .ok next := by
  obtain ⟨hkey, rfl⟩ := attach_eq_ok_iff.mp hattach
  refine attach_eq_ok_iff.mpr ⟨(keys_of_attach hearlier).symm ▸ hkey, ?_⟩
  obtain ⟨-, rfl⟩ := attach_eq_ok_iff.mp hearlier
  rw [setTransform_setTransform]

theorem attach_comm (hne : key ≠ name) (hearlier : registry.attach name earlier = .ok other)
    (hattach : registry.attach key transform = .ok next) :
    ∃ second, other.attach key transform = .ok second ∧ next.attach name earlier = .ok second := by
  have hname : name ∈ next.keys := by
    rw [keys_of_attach hattach]
    exact (attach_eq_ok_iff.mp hearlier).1
  have hkey : key ∈ other.keys := by
    rw [keys_of_attach hearlier]
    exact (attach_eq_ok_iff.mp hattach).1
  refine ⟨_, attach_eq_ok_iff.mpr ⟨hkey, rfl⟩, attach_eq_ok_iff.mpr ⟨hname, ?_⟩⟩
  obtain ⟨-, rfl⟩ := attach_eq_ok_iff.mp hearlier
  obtain ⟨-, rfl⟩ := attach_eq_ok_iff.mp hattach
  rw [setTransform_comm hne]

theorem attach_provide (hearlier : registry.attach name earlier = .ok other)
    (hprovide : registry.provide key value = .ok next) :
    ∃ second, other.provide key value = .ok second ∧ next.attach name earlier = .ok second := by
  have hkeys := keys_of_attach hearlier
  obtain ⟨hname, rfl⟩ := attach_eq_ok_iff.mp hearlier
  obtain ⟨hkey, hadmitted, hfresh, rfl⟩ := provide_eq_ok_iff.mp hprovide
  refine ⟨_, provide_eq_ok_iff.mpr ⟨hkey, hadmitted, hkeys.symm ▸ hfresh, rfl⟩,
    attach_eq_ok_iff.mpr ⟨?_, ?_⟩⟩
  · rw [Registry.keys, List.map_append]
    exact List.mem_append_left _ hname
  · rw [setTransform_append hname]

/-! The registries that come of one by attaching transforms to some keys. -/

/-- The second registry is the first one after transforms were attached, any number of times, to
keys of the set. -/
abbrev Reattached (keys : Set String) : Registry → Registry → Prop :=
  Relation.ReflTransGen fun registry next =>
    ∃ key ∈ keys, ∃ transform, registry.attach key transform = .ok next

theorem Reattached.mono {more : Set String} (h : Reattached keys registry other)
    (hmore : keys ⊆ more) : Reattached more registry other := by
  induction h with
  | refl => exact Relation.ReflTransGen.refl
  | tail _ hlast ih =>
      obtain ⟨key, hkey, transform, hattach⟩ := hlast
      exact ih.tail ⟨key, hmore hkey, transform, hattach⟩

theorem Reattached.eq_of_empty (h : Reattached ∅ registry other) : other = registry := by
  induction h with
  | refl => rfl
  | tail _ hlast =>
      obtain ⟨_, hkey, _⟩ := hlast
      exact absurd hkey (Set.notMem_empty _)

theorem Reattached.edits (h : Reattached keys registry other) : Edits registry other := by
  induction h with
  | refl => exact Relation.ReflTransGen.refl
  | tail _ hlast ih =>
      obtain ⟨_, _, _, hattach⟩ := hlast
      exact ih.tail (Edit.attach hattach)

theorem Reattached.keys_eq (h : Reattached keys registry other) : other.keys = registry.keys := by
  induction h with
  | refl => rfl
  | tail _ hlast ih =>
      obtain ⟨_, _, _, hattach⟩ := hlast
      exact (keys_of_attach hattach).trans ih

theorem Reattached.mem_keys (h : Reattached keys registry other) (key : String) :
    key ∈ registry.keys ↔ key ∈ other.keys := by
  rw [h.keys_eq]

theorem Reattached.size_eq (h : Reattached keys registry other) : other.size = registry.size := by
  simpa [Registry.keys, size] using congrArg List.length h.keys_eq

theorem Reattached.placeholder_eq (h : Reattached keys registry other) (key : String) :
    other.placeholder key = registry.placeholder key := by
  rw [placeholder, placeholder, h.edits.marker_eq]

/-- After the same transform is attached on both sides the registries agree on its key. -/
theorem Reattached.attach (h : Reattached keys registry other)
    (hattach : registry.attach key transform = .ok next) :
    ∃ second, other.attach key transform = .ok second ∧
      Reattached (keys \ {key}) next second := by
  induction h with
  | refl => exact ⟨next, hattach, Relation.ReflTransGen.refl⟩
  | tail _ hlast ih =>
      obtain ⟨middle, hmiddle, hreattached⟩ := ih
      obtain ⟨name, hname, earlier, hearlier⟩ := hlast
      -- The last transform was one of the key, and is gone now, or can as well come afterwards.
      by_cases hne : key = name
      · subst hne
        exact ⟨middle, attach_of_attach_self hearlier hmiddle, hreattached⟩
      · obtain ⟨second, hsecond, hlater⟩ := attach_comm hne hearlier hmiddle
        exact ⟨second, hsecond, hreattached.tail ⟨name, ⟨hname, Ne.symm hne⟩, earlier, hlater⟩⟩

theorem Reattached.provide (h : Reattached keys registry other)
    (hprovide : registry.provide key value = .ok next) :
    ∃ second, other.provide key value = .ok second ∧ Reattached keys next second := by
  induction h with
  | refl => exact ⟨next, hprovide, Relation.ReflTransGen.refl⟩
  | tail _ hlast ih =>
      obtain ⟨middle, hmiddle, hreattached⟩ := ih
      obtain ⟨name, hname, earlier, hearlier⟩ := hlast
      obtain ⟨second, hsecond, hlater⟩ := attach_provide hearlier hmiddle
      exact ⟨second, hsecond, hreattached.tail ⟨name, hname, earlier, hlater⟩⟩

theorem Reattached.request {choice : TransformChoice} {text : String}
    (h : Reattached keys registry other)
    (hrequest : registry.request key choice = .ok (text, next)) :
    ∃ second, other.request key choice = .ok (text, second) ∧
      Reattached (keys \ {key}) next second := by
  obtain ⟨transform, hchoice, hattach, rfl⟩ := request_eq_ok_iff.mp hrequest
  obtain ⟨second, hsecond, hreattached⟩ := h.attach hattach
  exact ⟨second, request_eq_ok_iff.mpr ⟨transform, hchoice, hsecond,
    (hreattached.placeholder_eq key).symm⟩, hreattached⟩

theorem reattached_of_request {choice : TransformChoice} {text : String}
    (hrequest : registry.request key choice = .ok (text, next)) :
    Reattached {key} registry next := by
  obtain ⟨transform, -, hattach, -⟩ := request_eq_ok_iff.mp hrequest
  exact Relation.ReflTransGen.single ⟨key, Set.mem_singleton key, transform, hattach⟩

end Stencil.Registry
