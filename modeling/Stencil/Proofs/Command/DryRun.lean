import Stencil.Proofs.Command.Effect

/-!
A dry run and the run that it stands for. The dry run makes every entry on the disk as it is at the
beginning, the other one on the disk that the entries before leave. What is made of an entry depends
on the disk through its body alone, so the two go the same way as long as the bodies are the same.
-/

namespace Stencil

/-- Reading a body leaves the disk as it is. -/
theorem Entry.run_loadBody (entry : Entry) (folder : String) (disk : Disk) :
    (entry.loadBody folder : StateM Disk _).run disk =
      (((entry.loadBody folder : StateM Disk _).run disk).1, disk) := by
  obtain hboth | ⟨file, hbody, hfile, hread⟩ | ⟨body, hbody⟩ :=
    entry.hasBody_or_fault (Entry.reader disk folder)
  · rw [Entry.loadBody_of_missing disk folder hboth]
  · rw [Entry.loadBody_of_unreadable hbody hfile hread]
  · rw [Entry.loadBody_of_hasBody hbody]

namespace Command

namespace Job

variable {job : Job} {disk other start : Disk} {entry : Entry} {entries before : List Entry}
  {e : Failure}

/-- The same job, dry or not. -/
def inMode (job : Job) (dryRun : Bool) : Job :=
  { job with dryRun := dryRun }

/-- From a disk on, a job renders the entries before and fails at this one. -/
def FailsAt (job : Job) (disk : Disk) (before : List Entry) (entry : Entry) (e : Failure) : Prop :=
  ∃ current, (job.renderEntries before : StateM Disk _).run disk = (.ok (), current) ∧
    ((job.renderEntry entry : StateM Disk _).run current).1 = .error e

/-- Where an entry has the same body, the same is made of it, and nothing is changed. -/
theorem produce_congr (job : Job) (entry : Entry)
    (h : ((entry.loadBody job.folder : StateM Disk _).run disk).1 =
      ((entry.loadBody job.folder : StateM Disk _).run other).1) :
    ∃ result, (job.produce entry : StateM Disk _).run disk = (result, disk) ∧
      (job.produce entry : StateM Disk _).run other = (result, other) := by
  have hinstantiate : ∃ result,
      (entry.instantiate job.folder job.config.marker : StateM Disk _).run disk = (result, disk) ∧
      (entry.instantiate job.folder job.config.marker : StateM Disk _).run other =
        (result, other) := by
    have hload := entry.run_loadBody job.folder disk
    have hother := entry.run_loadBody job.folder other
    rw [h] at hload
    rw [Entry.instantiate, run_bind_eq hload, run_bind_eq hother]
    cases ((entry.loadBody job.folder : StateM Disk _).run other).1 with
    | error cause => exact ⟨_, rfl, rfl⟩
    | ok body => exact ⟨_, rfl, rfl⟩
  obtain ⟨result, hresult, hother⟩ := hinstantiate
  rw [produce, run_bind_eq hresult, run_bind_eq hother]
  cases result with
  | error cause => exact ⟨_, rfl, rfl⟩
  | ok inst => exact ⟨_, rfl, rfl⟩

theorem renderEntry_of_dry (hdry : job.dryRun = true) {file : FileName} {text : String}
    (h : (job.produce entry : StateM Disk _).run disk = (.ok (file, text), disk)) :
    (job.renderEntry entry : StateM Disk _).run disk = (.ok (), disk) := by
  have hdeliver := Disk.run_deliver disk true job.output file.full text
  rw [renderEntry, run_bind_eq h]
  dsimp only
  rw [hdry, run_bind_eq hdeliver]
  rfl

/-- A dry run of an entry only tells whether something can be made of it. -/
theorem renderEntry_dry (hdry : job.dryRun = true) (disk : Disk) (entry : Entry) :
    ∃ result, (job.produce entry : StateM Disk _).run disk = (result, disk) ∧
      (job.renderEntry entry : StateM Disk _).run disk = (result.map fun _ => (), disk) := by
  obtain ⟨result, hproduce, -⟩ := produce_congr job entry (Eq.refl _)
  refine ⟨result, hproduce, ?_⟩
  cases result with
  | error e => exact renderEntry_of_error hproduce
  | ok produced => exact renderEntry_of_dry hdry hproduce

theorem renderEntries_dry_snd (hdry : job.dryRun = true) (disk : Disk) (entries : List Entry) :
    ((job.renderEntries entries : StateM Disk _).run disk).2 = disk := by
  induction entries with
  | nil => rfl
  | cons entry rest ih =>
      cases hselects : job.selects entry with
      | false =>
          rw [renderEntries_cons_of_passed hselects]
          exact ih
      | true =>
          obtain ⟨result, -, hrender⟩ := renderEntry_dry hdry disk entry
          cases result with
          | error e => rw [renderEntries_cons_of_error hselects hrender]
          | ok produced =>
              rw [renderEntries_cons_of_ok hselects hrender]
              exact ih

theorem run_dry_snd (hdry : job.dryRun = true) (disk : Disk) :
    ((job.run : StateM Disk _).run disk).2 = disk := by
  rw [run, hdry, if_pos rfl]
  exact renderEntries_dry_snd hdry disk job.config.entries

theorem FailsAt.cons {first : Entry} (hselects : job.selects first = true)
    (hfirst : (job.renderEntry first : StateM Disk _).run disk = (.ok (), other))
    (h : job.FailsAt other before entry e) : job.FailsAt disk (first :: before) entry e := by
  obtain ⟨current, hbefore, hentry⟩ := h
  refine ⟨current, ?_, hentry⟩
  rw [renderEntries_cons_of_ok hselects hfirst, hbefore]

theorem FailsAt.of_error
    (h : (job.renderEntry entry : StateM Disk _).run disk = (.error e, other)) :
    job.FailsAt disk [] entry e := by
  refine ⟨disk, rfl, ?_⟩
  rw [h]

/-- Two jobs get through the same entries, each from its disk on, or they fail at the same one for
the same reason. -/
def Agree (real dry : Job) (start disk : Disk) (entries : List Entry) : Prop :=
  (((real.renderEntries entries : StateM Disk _).run start).1 = .ok () ∧
      ((dry.renderEntries entries : StateM Disk _).run disk).1 = .ok ()) ∨
    ∃ before entry after e, entries = before ++ entry :: after ∧
      real.FailsAt start before entry e ∧ dry.FailsAt disk before entry e ∧
      ((real.renderEntries entries : StateM Disk _).run start).1 = .error e ∧
      ((dry.renderEntries entries : StateM Disk _).run disk).1 = .error e

theorem Agree.cons {real dry : Job} {disk start next : Disk} (hreal : real.selects entry = true)
    (hdry : dry.selects entry = true)
    (hstart : (real.renderEntry entry : StateM Disk _).run start = (.ok (), next))
    (hdisk : (dry.renderEntry entry : StateM Disk _).run disk = (.ok (), disk))
    (h : Agree real dry next disk entries) : Agree real dry start disk (entry :: entries) := by
  rw [Agree, renderEntries_cons_of_ok hreal hstart, renderEntries_cons_of_ok hdry hdisk]
  obtain hdone | ⟨before, last, after, e, rfl, hfails, hfailsDry, hresult, hresultDry⟩ := h
  · exact Or.inl hdone
  · exact Or.inr ⟨entry :: before, last, after, e, rfl, hfails.cons hreal hstart,
      hfailsDry.cons hdry hdisk, hresult, hresultDry⟩

/-- As long as no file is refused and each body is at its turn what it was on the disk, a job and
its dry run agree. -/
theorem agree_of_same_bodies (job : Job) (hselects : ∀ entry ∈ entries, job.selects entry = true)
    (hwrites : ∀ identifier cause,
      (((job.inMode false).renderEntries entries : StateM Disk _).run start).1 ≠
        .error (.notWritten identifier cause))
    (hbodies : ∀ before entry after current, entries = before ++ entry :: after →
      ((job.inMode false).renderEntries before : StateM Disk _).run start = (.ok (), current) →
      ((entry.loadBody job.folder : StateM Disk _).run current).1 =
        ((entry.loadBody job.folder : StateM Disk _).run disk).1) :
    Agree (job.inMode false) (job.inMode true) start disk entries := by
  induction entries generalizing start with
  | nil => exact Or.inl ⟨rfl, rfl⟩
  | cons entry rest ih =>
      obtain ⟨hentry, hrest⟩ := List.forall_mem_cons.mp hselects
      have hreal : (job.inMode false).selects entry = true := hentry
      have hdry : (job.inMode true).selects entry = true := hentry
      obtain ⟨result, hstart, hdisk⟩ :=
        produce_congr (job.inMode false) entry (hbodies [] entry rest start rfl rfl)
      have hdisk : ((job.inMode true).produce entry : StateM Disk _).run disk = (result, disk) :=
        hdisk
      cases result with
      | error e =>
          have hfails := renderEntry_of_error hstart
          have hfailsDry := renderEntry_of_error hdisk
          rw [Agree, renderEntries_cons_of_error hreal hfails,
            renderEntries_cons_of_error hdry hfailsDry]
          exact Or.inr ⟨[], entry, rest, e, rfl, FailsAt.of_error hfails,
            FailsAt.of_error hfailsDry, rfl, rfl⟩
      | ok produced =>
          obtain ⟨file, text⟩ := produced
          have hrender := renderEntry_of_produced rfl hstart
          have hrenderDry := renderEntry_of_dry rfl hdisk
          cases hwrite : start.write? (Path.join (job.inMode false).output file.full)
              text.toUTF8 with
          | none =>
              rw [hwrite] at hrender
              have hrefused := hwrites entry.identifier
              rw [renderEntries_cons_of_error hreal hrender] at hrefused
              exact absurd rfl (hrefused _)
          | some next =>
              rw [hwrite] at hrender
              rw [renderEntries_cons_of_ok hreal hrender] at hwrites
              refine Agree.cons hreal hdry hrender hrenderDry (ih hrest hwrites ?_)
              -- what is before an entry of the rest has this one in front
              intro before later after current hsplit hbefore
              apply hbodies (entry :: before) later after current
              · rw [hsplit, List.cons_append]
              · rw [renderEntries_cons_of_ok hreal hrender, hbefore]

theorem run_inMode_false (hready : disk.makeFolders job.output = (true, start)) :
    ((job.inMode false).run : StateM Disk _).run disk =
      ((job.inMode false).renderEntries job.selected : StateM Disk _).run start := by
  have hselected : job.selected = job.config.entries.filter (job.inMode false).selects := rfl
  rw [hselected, renderEntries_filter]
  exact run_of_ready rfl hready

theorem run_inMode_true (job : Job) (disk : Disk) :
    ((job.inMode true).run : StateM Disk _).run disk =
      ((job.inMode true).renderEntries job.selected : StateM Disk _).run disk := by
  have hselected : job.selected = job.config.entries.filter (job.inMode true).selects := rfl
  rw [hselected, renderEntries_filter]
  rfl

end Job

variable {readers : Readers} {options : Options} {path : String} {config : Config} {disk : Disk}

/-- With options that only differ in the mode, the same job is run in that mode. -/
theorem render_inMode (dryRun : Bool) (hpath : options.config = some path)
    (hload : (Config.load readers.config path : StateM Disk _).run disk = (.ok config, disk)) :
    (render readers { options with dryRun := dryRun } : StateM Disk _).run disk =
      (((Job.of readers options path config).inMode dryRun).run : StateM Disk _).run disk := by
  have hsame : { options with dryRun := dryRun }.config = some path := hpath
  exact render_of_load hsame hload

theorem render_dry_snd (hdry : options.dryRun = true) (disk : Disk) :
    ((render readers options : StateM Disk _).run disk).2 = disk := by
  cases hpath : options.config with
  | none =>
      simp only [render, hpath]
      rfl
  | some path =>
      have hload := run_load readers.config disk path
      cases hconfig : ((disk.text? path).map (Config.parse readers.config)).getD
          (.error .unreadable) with
      | error e =>
          rw [hconfig] at hload
          simp only [render, hpath]
          rw [run_bind_eq hload]
          rfl
      | ok config =>
          rw [hconfig] at hload
          rw [render_of_load hpath hload]
          exact Job.run_dry_snd hdry disk

/-- However configurations and expressions are read, a dry run leaves the disk as it is. Where the
run that it stands for can make its output folder and each file, and finds each body at its turn as
it was at the beginning, both get through, or both fail at the same entry for the same reason. -/
theorem render_dry_run (readers : Readers) (options : Options) (disk : Disk) :
    ((render readers { options with dryRun := true } : StateM Disk _).run disk).2 = disk ∧
    ∀ path config start, options.config = some path →
      (Config.load readers.config path : StateM Disk _).run disk = (.ok config, disk) →
      let job := Job.of readers options path config
      let real := (render readers { options with dryRun := false } : StateM Disk _).run disk
      let dry := (render readers { options with dryRun := true } : StateM Disk _).run disk
      disk.makeFolders job.output = (true, start) →
      (∀ identifier cause, real.1 ≠ .error (.notWritten identifier cause)) →
      (∀ before entry after current, job.selected = before ++ entry :: after →
        ((job.inMode false).renderEntries before : StateM Disk _).run start = (.ok (), current) →
        ((entry.loadBody job.folder : StateM Disk _).run current).1 =
          ((entry.loadBody job.folder : StateM Disk _).run disk).1) →
      real.1 = .ok () ∧ dry.1 = .ok () ∨
        ∃ before entry after e, job.selected = before ++ entry :: after ∧
          (job.inMode false).FailsAt start before entry e ∧
          (job.inMode true).FailsAt disk before entry e ∧
          real.1 = .error e ∧ dry.1 = .error e := by
  refine ⟨render_dry_snd rfl disk, ?_⟩
  intro path config start hpath hload job real dry hready hwrites hbodies
  have hreal : real = ((job.inMode false).renderEntries job.selected : StateM Disk _).run start :=
    (render_inMode false hpath hload).trans (Job.run_inMode_false hready)
  have hdry : dry = ((job.inMode true).renderEntries job.selected : StateM Disk _).run disk :=
    (render_inMode true hpath hload).trans (job.run_inMode_true disk)
  have hselects : ∀ entry ∈ job.selected, job.selects entry = true := by
    intro entry hentry
    exact (List.mem_filter.mp hentry).2
  rw [hreal] at hwrites ⊢
  rw [hdry]
  exact Job.agree_of_same_bodies job hselects hwrites hbodies

theorem loadBody_congr {entry : Entry} (hfile : entry.file = none) (folder : String)
    (disk other : Disk) :
    ((entry.loadBody folder : StateM Disk _).run disk).1 =
      ((entry.loadBody folder : StateM Disk _).run other).1 := by
  rw [Entry.loadBody, hfile]
  cases entry.body with
  | none => rfl
  | some body => rfl

/-- No entry that takes part has a body file, so both runs fail at the same one. Some that are
passed over have one that is not there. -/
theorem render_dry_run_notes :
    ∃ config start,
      (Config.load Config.ofYaml? "card.yaml" : StateM Disk _).run noteDisk =
        (.ok config, noteDisk) ∧
      noteDisk.makeFolders "out" = (true, start) ∧
      ((render .builtIn { noteOptions with dryRun := false } : StateM Disk _).run noteDisk).1 =
        .error noteFailure ∧
      config.entries.map (·.identifier) =
        ["NotesTxt", "DraftTxt", "SecretTxt", "LogoPng", "LaterTxt"] ∧
      (Job.of .builtIn noteOptions "card.yaml" config).selected.map
        (fun entry => (entry.identifier, entry.file)) =
        [("NotesTxt", none), ("LaterTxt", none)] ∧
      (render .builtIn { noteOptions with dryRun := true } : StateM Disk _).run noteDisk =
        (.error noteFailure, noteDisk) := by
  obtain ⟨config, hload, hidentifiers, hselected⟩ := exists_load_note
  have hfails :
      ((render .builtIn { noteOptions with dryRun := false } : StateM Disk _).run noteDisk).1 =
        .error noteFailure := render_note.1
  have hfiles : ∀ entry ∈ (Job.of .builtIn noteOptions "card.yaml" config).selected,
      entry.file = none := by
    intro entry hentry
    have hpair : (entry.identifier, entry.file) ∈ [("NotesTxt", none), ("LaterTxt", none)] := by
      rw [← hselected]
      exact List.mem_map_of_mem hentry
    obtain hfirst | hsecond := List.mem_pair.mp hpair
    · exact (Prod.ext_iff.mp hfirst).2
    · exact (Prod.ext_iff.mp hsecond).2
  have hwrites : ∀ identifier cause,
      ((render .builtIn { noteOptions with dryRun := false } : StateM Disk _).run noteDisk).1 ≠
        .error (.notWritten identifier cause) := by
    intro identifier cause
    rw [hfails]
    exact nofun
  have hbodies : ∀ before entry after current,
      (Job.of .builtIn noteOptions "card.yaml" config).selected = before ++ entry :: after →
      ∀ folder, ((entry.loadBody folder : StateM Disk _).run current).1 =
        ((entry.loadBody folder : StateM Disk _).run noteDisk).1 := by
    intro before entry after current hsplit folder
    apply loadBody_congr
    apply hfiles
    rw [hsplit]
    exact List.mem_append_right before List.mem_cons_self
  obtain ⟨hkept, hsame⟩ := render_dry_run .builtIn noteOptions noteDisk
  refine ⟨config, _, hload, makeFolders_note, hfails, hidentifiers, hselected, ?_⟩
  obtain ⟨hreal, -⟩ | ⟨-, -, -, e, -, -, -, hreal, hdry⟩ :=
    hsame "card.yaml" config _ rfl hload makeFolders_note hwrites
      fun before entry after current hsplit _ => hbodies before entry after current hsplit _
  · rw [hfails] at hreal
    cases hreal
  · rw [hfails] at hreal
    obtain rfl : noteFailure = e := Except.error.inj hreal
    exact Prod.ext hdry hkept

end Command

end Stencil
