import Stencil.Config.Entry
import Stencil.Disk.Basic
import Stencil.Proofs.Instance.ProvisionOrder

/-!
What becomes of an entry. `Entry.Outcome` says it fault by fault, each one under the condition that
nothing before it went wrong, and `instantiate_outcome` that these are the results of
`Entry.instantiate` and that there are no others. The declarations of a configured template come
from the same list as the values, so a key that comes twice is first held against the kind of its
first value, and only then found to be taken.
-/

namespace Stencil

/-- The configured transform is known, if there is one. -/
def Setting.isKnown (setting : Setting) : Bool :=
  setting.transform.all fun name => (Transform.named? name).isSome

namespace Entry

variable {entry : Entry} {read : String → Option String} {body folder marker key name : String}
  {before after replacers : List (String × Setting)} {setting first : Setting} {e : TemplateError}
  {disk : Disk}

/-- The keys are identifiers, no two of them equal. -/
structure Distinct (replacers : List (String × Setting)) : Prop where
  identifiers : ∀ pair ∈ replacers, isIdentifier pair.1 = true
  nodup : (replacers.map (·.1)).Nodup

/-- The fault of a replacer whose predecessors have none. -/
inductive Flaw (before : List (String × Setting)) (key : String) (setting : Setting) :
    TemplateError → Prop where
  | invalidKey : isIdentifier key = false → Flaw before key setting (.invalidKey key)
  | kindMismatch {first : Setting} :
      isIdentifier key = true → (key, first) ∈ before → first.value.kind ≠ setting.value.kind →
      Flaw before key setting (.valueKindMismatch key first.value.kind setting.value.kind)
  | duplicate {first : Setting} :
      isIdentifier key = true → (key, first) ∈ before → first.value.kind = setting.value.kind →
      Flaw before key setting (.duplicateProvision key)

/-- The body of an entry, given in it or read from its file. -/
inductive HasBody (entry : Entry) (read : String → Option String) : String → Prop where
  | given {body : String} : entry.body = some body → entry.file = none → HasBody entry read body
  | loaded {file body : String} :
      entry.body = none → entry.file = some file → read file = some body → HasBody entry read body

/-- An instance that holds exactly the configured values, in their order and without transforms,
with each key declared for the kind of its value, and nothing compiled. -/
def ready (entry : Entry) (body marker : String) : Instance where
  template := ⟨entry.identifier, entry.declared, entry.naming, entry.actions body⟩
  registry :=
    { marker := marker
      declared := entry.replacers.map fun (key, setting) => ⟨key, setting.value.kind⟩
      entries := entry.replacers.map fun (key, setting) => (key, ⟨setting.value, none⟩) }
  compiled := ""
  knownName := none
  namingCalls := 0

/-- What an entry becomes with a marker, given what can be read. -/
inductive Outcome (entry : Entry) (read : String → Option String) (marker : String) :
    Except ConfigError Instance → Prop where
  | missingBody :
      entry.body.isSome = entry.file.isSome →
      Outcome entry read marker (.error (.missingBody entry.identifier))
  | unreadable {file : String} :
      entry.body = none → entry.file = some file → read file = none →
      Outcome entry read marker (.error .unreadable)
  | unknownTransform {body key name : String} {setting : Setting}
      {before after : List (String × Setting)} :
      entry.HasBody read body → entry.replacers = before ++ (key, setting) :: after →
      (∀ pair ∈ before, pair.2.isKnown = true) → setting.transform = some name →
      Transform.named? name = none →
      Outcome entry read marker (.error (.template (.unknownTransform name)))
  | emptyMarker {body : String} :
      entry.HasBody read body → (∀ pair ∈ entry.replacers, pair.2.isKnown = true) → marker = "" →
      Outcome entry read marker (.error (.template .emptyMarker))
  | flawed {body key : String} {setting : Setting} {before after : List (String × Setting)}
      {e : TemplateError} :
      entry.HasBody read body → (∀ pair ∈ entry.replacers, pair.2.isKnown = true) → marker ≠ "" →
      entry.replacers = before ++ (key, setting) :: after → Distinct before →
      Flaw before key setting e →
      Outcome entry read marker (.error (.template e))
  | ready {body : String} :
      entry.HasBody read body → (∀ pair ∈ entry.replacers, pair.2.isKnown = true) → marker ≠ "" →
      Distinct entry.replacers →
      Outcome entry read marker (.ok (entry.ready body marker))

/-! Transforms. -/

theorem isKnown_eq_false_iff :
    setting.isKnown = false ↔
      ∃ name, setting.transform = some name ∧ Transform.named? name = none := by
  rw [Setting.isKnown]
  cases setting.transform with
  | none => simp
  | some name => simp

theorem unknownTransform?_eq_none (hknown : ∀ pair ∈ entry.replacers, pair.2.isKnown = true) :
    entry.unknownTransform? = none := by
  rw [unknownTransform?, List.find?_eq_none]
  intro name hname hunknown
  obtain ⟨pair, hpair, htransform⟩ := List.mem_filterMap.mp hname
  have hnone : Transform.named? name = none := by simpa using hunknown
  have hfalse : pair.2.isKnown = false := isKnown_eq_false_iff.mpr ⟨name, htransform, hnone⟩
  rw [hknown pair hpair] at hfalse
  cases hfalse

theorem unknownTransform?_eq_some (hsplit : entry.replacers = before ++ (key, setting) :: after)
    (hbefore : ∀ pair ∈ before, pair.2.isKnown = true) (hname : setting.transform = some name)
    (hunknown : Transform.named? name = none) : entry.unknownTransform? = some name := by
  have hnone : (before.filterMap fun (_, setting) => setting.transform).find? (fun name =>
      (Transform.named? name).isNone) = none := by
    rw [List.find?_eq_none]
    intro earlier hearlier hno
    obtain ⟨pair, hpair, htransform⟩ := List.mem_filterMap.mp hearlier
    have hfalse : pair.2.isKnown = false :=
      isKnown_eq_false_iff.mpr ⟨earlier, htransform, by simpa using hno⟩
    rw [hbefore pair hpair] at hfalse
    cases hfalse
  rw [unknownTransform?, hsplit, List.filterMap_append, List.find?_append, hnone]
  simp [hname, hunknown]

/-- Either all transforms are known, or there is a first one that is not. -/
theorem known_or_first_unknown (replacers : List (String × Setting)) :
    (∀ pair ∈ replacers, pair.2.isKnown = true) ∨
      ∃ before key setting after, replacers = before ++ (key, setting) :: after ∧
        (∀ pair ∈ before, pair.2.isKnown = true) ∧ setting.isKnown = false := by
  cases hfound : replacers.find? fun pair => !pair.2.isKnown with
  | none =>
      left
      intro pair hpair
      simpa using List.find?_eq_none.mp hfound pair hpair
  | some pair =>
      right
      obtain ⟨hno, before, after, hsplit, hbefore⟩ := List.find?_eq_some_iff_append.mp hfound
      refine ⟨before, pair.1, pair.2, after, hsplit, ?_, by simpa using hno⟩
      intro earlier hearlier
      simpa using hbefore earlier hearlier

/-! Declarations and provisions. -/

/-- The first declaration of a key is that of its first value. -/
theorem find?_declared (hsplit : entry.replacers = before ++ after) (hbefore : Distinct before)
    (hfirst : (key, first) ∈ before) :
    entry.declared.find? (·.key == key) = some ⟨key, first.value.kind⟩ := by
  obtain ⟨front, back, rfl⟩ := List.append_of_mem hfirst
  have hfront : ∀ pair ∈ front, pair.1 ≠ key := by
    have hnodup := hbefore.nodup
    rw [List.map_append, List.nodup_append] at hnodup
    intro pair hpair
    exact hnodup.2.2 pair.1 (List.mem_map.mpr ⟨pair, hpair, rfl⟩) key (by simp)
  rw [declared, List.find?_map, hsplit]
  have hfound : ((front ++ (key, first) :: back) ++ after).find? (fun pair => pair.1 == key) =
      some (key, first) := by
    rw [List.find?_eq_some_iff_append]
    refine ⟨by simp, front, back ++ after, by simp, ?_⟩
    intro pair hpair
    simpa using hfront pair hpair
  have hcomp : ((fun declaration : Declaration => declaration.key == key) ∘
      fun pair : String × Setting => ⟨pair.1, pair.2.value.kind⟩) = fun pair => pair.1 == key := rfl
  rw [hcomp, hfound]
  rfl

/-- The registry of a configured template with some of its values provided. -/
def provided (entry : Entry) (marker : String) (replacers : List (String × Setting)) :
    Registry where
  marker := marker
  declared := entry.declared
  entries := replacers.map fun (key, setting) => (key, ⟨setting.value, none⟩)

theorem keys_provided (entry : Entry) (marker : String) (replacers : List (String × Setting)) :
    (entry.provided marker replacers).keys = replacers.map (·.1) := by
  simp [provided, Registry.keys, Function.comp_def]

theorem admits_provided (hsplit : entry.replacers = before ++ after) (hbefore : Distinct before)
    (hfirst : (key, first) ∈ before) (value : Value) :
    (entry.provided marker replacers).admits key value =
      if first.value.kind = value.kind then .ok ()
      else .error (.valueKindMismatch key first.value.kind value.kind) := by
  have hfound : (entry.provided marker replacers).declared.find? (·.key == key) =
      some ⟨key, first.value.kind⟩ := find?_declared hsplit hbefore hfirst
  exact Registry.admits_of_declared hfound value

/-- Replacers of different keys can be provided as far as they go, since each is then the first of
its key and agrees with its own declaration. -/
theorem provideAll_distinct (marker : String) (hsplit : entry.replacers = before ++ after)
    (hbefore : Distinct before) :
    (entry.provided marker []).provideAll (before.map fun (key, setting) => (key, setting.value)) =
      .ok (entry.provided marker before) := by
  rw [Registry.provideAll_eq_ok_iff]
  refine ⟨⟨?_, ?_, ?_, ?_⟩, ?_⟩
  · intro pair hpair
    obtain ⟨replacer, hreplacer, rfl⟩ := List.mem_map.mp hpair
    exact hbefore.identifiers replacer hreplacer
  · intro pair hpair
    obtain ⟨replacer, hreplacer, rfl⟩ := List.mem_map.mp hpair
    rw [admits_provided hsplit hbefore hreplacer, if_pos rfl]
  · have hkeys := hbefore.nodup
    rw [List.map_map]
    exact hkeys
  · intro pair _
    simp [keys_provided]
  · simp [provided, Registry.freshEntry]

theorem provide_flawed (marker : String) (hsplit : entry.replacers = before ++ after)
    (hbefore : Distinct before) (hflaw : Flaw before key setting e) :
    (entry.provided marker before).provide key setting.value = .error e := by
  have htaken {first : Setting} (hfirst : (key, first) ∈ before) :
      key ∈ (entry.provided marker before).keys := by
    rw [keys_provided]
    exact List.mem_map.mpr ⟨(key, first), hfirst, rfl⟩
  cases hflaw with
  | invalidKey hkey => exact Registry.provide_of_invalid hkey
  | kindMismatch hkey hfirst hkind =>
      refine Registry.provide_of_not_admitted hkey ?_
      rw [admits_provided hsplit hbefore hfirst, if_neg hkind]
  | duplicate hkey hfirst hkind =>
      refine Registry.provide_of_taken hkey ?_ (htaken hfirst)
      rw [admits_provided hsplit hbefore hfirst, if_pos hkind]

/-- Either all keys are different identifiers, or there is a first replacer with a flaw. -/
theorem distinct_or_first_flaw (replacers : List (String × Setting)) :
    Distinct replacers ∨ ∃ before key setting after e,
      replacers = before ++ (key, setting) :: after ∧ Distinct before ∧
        Flaw before key setting e := by
  -- From the end: a last replacer can only be at fault when none before it is.
  induction replacers using List.reverseRecOn with
  | nil => exact Or.inl ⟨by simp, by simp⟩
  | append_singleton replacers last ih =>
      obtain ⟨key, setting⟩ := last
      rcases ih with hdistinct | ⟨before, name, flawed, after, e, rfl, hbefore, hflaw⟩
      · cases hkey : isIdentifier key with
        | false =>
            exact Or.inr ⟨replacers, key, setting, [], _, rfl, hdistinct, Flaw.invalidKey hkey⟩
        | true =>
            by_cases hmem : key ∈ replacers.map (·.1)
            · obtain ⟨pair, hpair, rfl⟩ := List.mem_map.mp hmem
              by_cases hkind : pair.2.value.kind = setting.value.kind
              · exact Or.inr ⟨replacers, pair.1, setting, [], _, rfl, hdistinct,
                  Flaw.duplicate hkey hpair hkind⟩
              · exact Or.inr ⟨replacers, pair.1, setting, [], _, rfl, hdistinct,
                  Flaw.kindMismatch hkey hpair hkind⟩
            · refine Or.inl ⟨?_, ?_⟩
              · intro pair hpair
                rcases List.mem_append.mp hpair with hold | hnew
                · exact hdistinct.identifiers pair hold
                · rwa [List.mem_singleton.mp hnew]
              · simpa using hdistinct.nodup.concat hmem
      · exact Or.inr ⟨before, name, flawed, after ++ [(key, setting)], e, by simp, hbefore, hflaw⟩

/-! The instance of an entry whose body is known. -/

theorem provideAll_eq_map (inst : Instance) (replacers : List (String × Setting)) :
    provideAll inst replacers =
      (inst.registry.provideAll (replacers.map fun (key, setting) => (key, setting.value))).map
        fun registry => { inst with registry := registry } := by
  induction replacers generalizing inst with
  | nil => rfl
  | cons pair rest ih =>
      rw [provideAll, List.map_cons, Registry.provideAll_cons, Instance.provide]
      cases inst.registry.provide pair.1 pair.2.value with
      | error e => rfl
      | ok next => exact ih { inst with registry := next }

theorem prepare_of_unknown (h : entry.unknownTransform? = some name) :
    entry.prepare body marker = .error (.unknownTransform name) := by
  simp [prepare, blank, template, h]

theorem prepare_of_emptyMarker (h : entry.unknownTransform? = none) :
    entry.prepare body "" = .error .emptyMarker := by
  simp [prepare, blank, template, h, Instance.withMarker, Registry.withMarker, Except.map]

theorem prepare_of_known (h : entry.unknownTransform? = none) (hmarker : marker ≠ "") :
    entry.prepare body marker =
      ((entry.provided marker []).provideAll
        (entry.replacers.map fun (key, setting) => (key, setting.value))).map
          fun registry => { entry.ready body marker with registry := registry } := by
  have htemplate : entry.template body = .ok (entry.ready body marker).template := by
    rw [template, h]
    rfl
  have hblank : (Instance.new (entry.ready body marker).template).withMarker marker =
      .ok { entry.ready body marker with registry := entry.provided marker [] } :=
    Instance.withMarker_new_eq_ok_iff.mpr ⟨hmarker, rfl⟩
  rw [prepare, blank, htemplate]
  simp only [hblank, provideAll_eq_map]

theorem prepare_of_flaw (h : entry.unknownTransform? = none) (hmarker : marker ≠ "")
    (hsplit : entry.replacers = before ++ (key, setting) :: after) (hbefore : Distinct before)
    (hflaw : Flaw before key setting e) : entry.prepare body marker = .error e := by
  have hprovided := provideAll_distinct marker hsplit hbefore
  have hrefused := provide_flawed marker hsplit hbefore hflaw
  rw [prepare_of_known h hmarker, hsplit, List.map_append, Registry.provideAll_append, hprovided,
    List.map_cons]
  rw [Except.bind, Registry.provideAll_cons, hrefused]
  rfl

theorem prepare_of_distinct (h : entry.unknownTransform? = none) (hmarker : marker ≠ "")
    (hdistinct : Distinct entry.replacers) :
    entry.prepare body marker = .ok (entry.ready body marker) := by
  have hprovided := provideAll_distinct marker (List.append_nil _).symm hdistinct
  rw [prepare_of_known h hmarker, hprovided]
  rfl

/-! The whole way from an entry to its instance. -/

/-- What can be read below a folder of a disk. -/
def reader (disk : Disk) (folder : String) : String → Option String :=
  fun file => disk.text? (Path.join folder file)

theorem run_readText (disk : Disk) (folder file : String) :
    (Files.readText (Path.join folder file) : StateM Disk _).run disk =
      (reader disk folder file, disk) := rfl

theorem loadBody_of_missing (disk : Disk) (folder : String)
    (h : entry.body.isSome = entry.file.isSome) :
    (entry.loadBody folder : StateM Disk _).run disk =
      (.error (.missingBody entry.identifier), disk) := by
  rw [loadBody]
  cases hbody : entry.body with
  | none =>
      cases hfile : entry.file with
      | none => rfl
      | some file => simp [hbody, hfile] at h
  | some body =>
      cases hfile : entry.file with
      | none => simp [hbody, hfile] at h
      | some file => rfl

theorem loadBody_of_unreadable {file : String} (hbody : entry.body = none)
    (hfile : entry.file = some file) (hread : reader disk folder file = none) :
    (entry.loadBody folder : StateM Disk _).run disk = (.error .unreadable, disk) := by
  rw [loadBody, hbody, hfile]
  simp only [StateT.run_bind, run_readText, hread]
  rfl

theorem loadBody_of_hasBody (h : entry.HasBody (reader disk folder) body) :
    (entry.loadBody folder : StateM Disk _).run disk = (.ok body, disk) := by
  cases h with
  | given hbody hfile =>
      rw [loadBody, hbody, hfile]
      rfl
  | loaded hbody hfile hread =>
      rw [loadBody, hbody, hfile]
      simp only [StateT.run_bind, run_readText, hread]
      rfl

theorem instantiate_of_loadBody_error {fault : ConfigError} (marker : String)
    (h : (entry.loadBody folder : StateM Disk _).run disk = (.error fault, disk)) :
    (entry.instantiate folder marker : StateM Disk _).run disk = (.error fault, disk) := by
  rw [instantiate, StateT.run_bind, h]
  rfl

theorem instantiate_of_hasBody (marker : String) (h : entry.HasBody (reader disk folder) body) :
    (entry.instantiate folder marker : StateM Disk _).run disk =
      ((entry.prepare body marker).mapError .template, disk) := by
  rw [instantiate, StateT.run_bind, loadBody_of_hasBody h]
  rfl

/-- Every outcome is what `instantiate` gives. -/
theorem Outcome.instantiate_eq {result : Except ConfigError Instance}
    (h : entry.Outcome (reader disk folder) marker result) :
    (entry.instantiate folder marker : StateM Disk _).run disk = (result, disk) := by
  cases h with
  | missingBody hboth =>
      exact instantiate_of_loadBody_error marker (loadBody_of_missing disk folder hboth)
  | unreadable hbody hfile hread =>
      exact instantiate_of_loadBody_error marker (loadBody_of_unreadable hbody hfile hread)
  | unknownTransform hbody hsplit hbefore hname hunknown =>
      have hfirst := unknownTransform?_eq_some hsplit hbefore hname hunknown
      rw [instantiate_of_hasBody marker hbody, prepare_of_unknown hfirst]
      rfl
  | emptyMarker hbody hknown hmarker =>
      have hnone := unknownTransform?_eq_none hknown
      rw [instantiate_of_hasBody marker hbody, hmarker, prepare_of_emptyMarker hnone]
      rfl
  | flawed hbody hknown hmarker hsplit hbefore hflaw =>
      have hnone := unknownTransform?_eq_none hknown
      rw [instantiate_of_hasBody marker hbody, prepare_of_flaw hnone hmarker hsplit hbefore hflaw]
      rfl
  | ready hbody hknown hmarker hdistinct =>
      have hnone := unknownTransform?_eq_none hknown
      rw [instantiate_of_hasBody marker hbody, prepare_of_distinct hnone hmarker hdistinct]
      rfl

/-- A body is there unless it is not said where, or cannot be read. -/
theorem hasBody_or_fault (entry : Entry) (read : String → Option String) :
    entry.body.isSome = entry.file.isSome ∨
      (∃ file, entry.body = none ∧ entry.file = some file ∧ read file = none) ∨
        ∃ body, entry.HasBody read body := by
  cases hbody : entry.body with
  | none =>
      cases hfile : entry.file with
      | none => exact Or.inl rfl
      | some file =>
          cases hread : read file with
          | none => exact Or.inr (Or.inl ⟨file, rfl, rfl, hread⟩)
          | some body => exact Or.inr (Or.inr ⟨body, HasBody.loaded hbody hfile hread⟩)
  | some body =>
      cases hfile : entry.file with
      | none => exact Or.inr (Or.inr ⟨body, HasBody.given hbody hfile⟩)
      | some file => exact Or.inl rfl

/-- Every entry has an outcome. -/
theorem exists_outcome (entry : Entry) (read : String → Option String) (marker : String) :
    ∃ result, entry.Outcome read marker result := by
  rcases hasBody_or_fault entry read with hboth | ⟨file, hbody, hfile, hread⟩ | ⟨body, hbody⟩
  · exact ⟨_, Outcome.missingBody hboth⟩
  · exact ⟨_, Outcome.unreadable hbody hfile hread⟩
  · rcases known_or_first_unknown entry.replacers with
      hknown | ⟨before, key, setting, after, hsplit, hbefore, hunknown⟩
    · by_cases hmarker : marker = ""
      · exact ⟨_, Outcome.emptyMarker hbody hknown hmarker⟩
      · rcases distinct_or_first_flaw entry.replacers with
          hdistinct | ⟨before, key, setting, after, e, hsplit, hbefore, hflaw⟩
        · exact ⟨_, Outcome.ready hbody hknown hmarker hdistinct⟩
        · exact ⟨_, Outcome.flawed hbody hknown hmarker hsplit hbefore hflaw⟩
    · obtain ⟨name, hname, hnone⟩ := isKnown_eq_false_iff.mp hunknown
      exact ⟨_, Outcome.unknownTransform hbody hsplit hbefore hname hnone⟩

theorem instantiate_run_iff {result : Except ConfigError Instance} {last : Disk} :
    (entry.instantiate folder marker : StateM Disk _).run disk = (result, last) ↔
      last = disk ∧ entry.Outcome (reader disk folder) marker result := by
  constructor
  · intro hrun
    obtain ⟨found, hfound⟩ := exists_outcome entry (reader disk folder) marker
    rw [hfound.instantiate_eq] at hrun
    obtain ⟨rfl, rfl⟩ := Prod.mk.inj hrun
    exact ⟨rfl, hfound⟩
  · rintro ⟨rfl, hresult⟩
    exact hresult.instantiate_eq

/-- An entry becomes an instance or is refused exactly as its outcome says, and the disk stays as it
is. Keys that are not declared or have no value never come up. -/
theorem instantiate_outcome (entry : Entry) (folder marker : String) (disk last : Disk)
    (result : Except ConfigError Instance) :
    ((entry.instantiate folder marker : StateM Disk _).run disk = (result, last) ↔
      last = disk ∧ entry.Outcome (fun file => disk.text? (Path.join folder file)) marker result) ∧
    ∀ key, ((entry.instantiate folder marker : StateM Disk _).run disk).1 ≠
        .error (.template (.undeclaredReplacer key)) ∧
      ((entry.instantiate folder marker : StateM Disk _).run disk).1 ≠
        .error (.template (.missingReplacer key)) := by
  refine ⟨instantiate_run_iff, ?_⟩
  intro key
  obtain ⟨found, hfound⟩ := exists_outcome entry (reader disk folder) marker
  rw [hfound.instantiate_eq]
  constructor
  · rintro rfl
    cases hfound with
    | flawed _ _ _ _ _ hflaw => cases hflaw
  · rintro rfl
    cases hfound with
    | flawed _ _ _ _ _ hflaw => cases hflaw

/-- A key that comes a second time is refused for the kind of its value before it is refused for
being taken. -/
example :
    let entry : Entry := ⟨"CardTxt", none, none, FileName.defaultSuffix, some "", none,
      [("name", .plain (.string "Ada")), ("name", .plain (.bool true))], true⟩
    entry.prepare "" "__" = .error (.valueKindMismatch "name" .string .bool) := by
  rfl

end Entry

end Stencil
