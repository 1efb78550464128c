import Stencil.Command.Run
import Stencil.Proofs.Config.Instantiation
import Stencil.Proofs.Disk.Location
import Stencil.Proofs.Instance.Compile
import Stencil.Proofs.Pattern.Admission

/-!
What a run of the renderer does to a disk. Entries that do not take part count for nothing. The
others are made and written in order, each on the disk that the ones before it leave, up to the
first that fails, and the last text that goes to a location stays there.
-/

namespace Stencil

/-- The name of an entry's file: given, or derived and with the configured extension, if any. -/
def Entry.fileName (entry : Entry) : Except TemplateError FileName :=
  match entry.name with
  | some name => FileName.given name entry.extension
  | none =>
    (FileName.derive entry.identifier entry.suffix FileName.keepSegments 0).map fun file =>
      if entry.extension.isSome then file.withExtension entry.extension else file

theorem Entry.Outcome.fileName_eq {entry : Entry} {read : String → Option String}
    {marker : String} {inst : Instance} (h : entry.Outcome read marker (.ok inst)) :
    inst.compile.2.fileName.1 = entry.fileName := by
  cases h with
  | ready =>
      rw [Instance.compile_snd, Entry.fileName]
      cases hname : entry.name with
      | none => simp [Instance.fileName, Template.fileName, Entry.ready, Entry.naming, hname]
      | some name => simp [Instance.fileName, Template.fileName, Entry.ready, Entry.naming, hname]

namespace Command

/-- What follows an action goes on with its result on the disk that it leaves. -/
theorem run_bind_eq {α β : Type} {disk next : Disk} {action : StateM Disk α}
    {more : α → StateM Disk β} {result : α} (h : action.run disk = (result, next)) :
    (action >>= more).run disk = (more result).run next := by
  rw [StateT.run_bind, h]
  rfl

namespace Job

variable {m : Type → Type} [Monad m] [Files m]
variable {job : Job} {disk start : Disk} {entry : Entry} {entries rest : List Entry}
  {written : List (Location × String)}

/-- The entries that take part in a run, in order. -/
def selected (job : Job) : List Entry :=
  job.config.entries.filter job.selects

/-- The same job for other entries. -/
def withEntries (job : Job) (entries : List Entry) : Job :=
  { job with config := { job.config with entries := entries } }

/-- What an entry makes on a disk: a file and its text. -/
structure Makes (job : Job) (disk : Disk) (entry : Entry) (file : FileName) (text : String) :
    Prop where
  compiles : ∃ inst, entry.Outcome (Entry.reader disk job.folder) job.config.marker (.ok inst) ∧
    inst.compile.1 = .ok text
  named : entry.fileName = .ok file

/-- Why an entry fails on a disk. Its body, its template or the values are refused, its text is not
compiled, it has no name, or there can be no file at the path. -/
inductive Fault (job : Job) (disk : Disk) (entry : Entry) : Failure → Prop where
  | notPrepared {cause : ConfigError}
      (houtcome : entry.Outcome (Entry.reader disk job.folder) job.config.marker (.error cause)) :
      Fault job disk entry (.notPrepared entry.identifier cause)
  | notCompiled {inst : Instance} {cause : TemplateError}
      (houtcome : entry.Outcome (Entry.reader disk job.folder) job.config.marker (.ok inst))
      (hcompile : inst.compile.1 = .error cause) :
      Fault job disk entry (.notCompiled entry.identifier cause)
  | notNamed {inst : Instance} {text : String} {cause : TemplateError}
      (houtcome : entry.Outcome (Entry.reader disk job.folder) job.config.marker (.ok inst))
      (hcompile : inst.compile.1 = .ok text) (hname : entry.fileName = .error cause) :
      Fault job disk entry (.notNamed cause)
  | notWritten {file : FileName} {text : String} (hmakes : job.Makes disk entry file text)
      (hwrite : disk.write? (Path.join job.output file.full) text.toUTF8 = none) :
      Fault job disk entry
        (.notWritten entry.identifier (.unwritable (Path.join job.output file.full)))

/-- Entries that are all made and written in order, from a disk on: where each of them goes, and its
text. -/
inductive Wrote (job : Job) : Disk → List Entry → List (Location × String) → Prop where
  | nil {disk : Disk} : Wrote job disk [] []
  | cons {disk : Disk} {entry : Entry} {rest : List Entry} {file : FileName} {text : String}
      {location : Location} {written : List (Location × String)}
      (hmakes : job.Makes disk entry file text)
      (hlocate : disk.locate? (Path.join job.output file.full) = some location)
      (hfree : disk.isFolder location = false)
      (hrest : Wrote job (disk.put location (.file text.toUTF8)) rest written) :
      Wrote job disk (entry :: rest) ((location, text) :: written)

theorem Wrote.free (h : job.Wrote disk entries written) :
    ∀ pair ∈ written, disk.isFolder pair.1 = false := by
  induction h with
  | nil => simp
  | cons hmakes hlocate hfree hrest ih =>
      rw [List.forall_mem_cons]
      refine ⟨hfree, fun pair hpair => ?_⟩
      rw [← Disk.isFolder_put_file hfree]
      exact ih pair hpair

/-! One entry. -/

theorem product_eq (entry : Entry) (inst : Instance) :
    product entry inst =
      match inst.compile.1, inst.compile.2.fileName.1 with
      | .error cause, _ => .error (.notCompiled entry.identifier cause)
      | .ok _, .error cause => .error (.notNamed cause)
      | .ok text, .ok file => .ok (file, text) := by
  rw [product]
  cases inst.compile with
  | mk compiled next =>
      cases compiled with
      | error cause => rfl
      | ok text =>
          dsimp only
          cases next.fileName with
          | mk found last =>
              cases found with
              | error cause => rfl
              | ok file => rfl

theorem run_produce (job : Job) (disk : Disk) (entry : Entry) :
    (∃ file text, job.Makes disk entry file text ∧
      (job.produce entry : StateM Disk _).run disk = (.ok (file, text), disk)) ∨
    ∃ e, job.Fault disk entry e ∧
      (job.produce entry : StateM Disk _).run disk = (.error e, disk) := by
  obtain ⟨result, hresult⟩ :=
    Entry.exists_outcome entry (Entry.reader disk job.folder) job.config.marker
  rw [produce, run_bind_eq hresult.instantiate_eq]
  cases result with
  | error cause => exact Or.inr ⟨_, Fault.notPrepared hresult, rfl⟩
  | ok inst =>
      dsimp only
      rw [product_eq, hresult.fileName_eq]
      cases hcompile : inst.compile.1 with
      | error cause => exact Or.inr ⟨_, Fault.notCompiled hresult hcompile, rfl⟩
      | ok text =>
          cases hname : entry.fileName with
          | error cause => exact Or.inr ⟨_, Fault.notNamed hresult hcompile hname, rfl⟩
          | ok file => exact Or.inl ⟨file, text, ⟨⟨inst, hresult, hcompile⟩, hname⟩, rfl⟩

theorem renderEntry_of_error {e : Failure}
    (h : (job.produce entry : StateM Disk _).run disk = (.error e, disk)) :
    (job.renderEntry entry : StateM Disk _).run disk = (.error e, disk) := by
  rw [renderEntry, run_bind_eq h]
  rfl

/-- What was produced is written, or the run fails and changes nothing. -/
theorem renderEntry_of_produced (hdry : job.dryRun = false) {file : FileName} {text : String}
    (h : (job.produce entry : StateM Disk _).run disk = (.ok (file, text), disk)) :
    (job.renderEntry entry : StateM Disk _).run disk =
      match disk.write? (Path.join job.output file.full) text.toUTF8 with
      | some next => (.ok (), next)
      | none =>
        (.error (.notWritten entry.identifier (.unwritable (Path.join job.output file.full))),
          disk) := by
  have hdeliver := Disk.run_deliver disk false job.output file.full text
  rw [if_neg Bool.false_ne_true] at hdeliver
  rw [renderEntry, run_bind_eq h]
  dsimp only
  rw [hdry]
  cases hwrite : disk.write? (Path.join job.output file.full) text.toUTF8 with
  | none =>
      rw [hwrite] at hdeliver
      rw [run_bind_eq hdeliver]
      rfl
  | some next =>
      rw [hwrite] at hdeliver
      rw [run_bind_eq hdeliver]
      rfl

theorem run_renderEntry (hdry : job.dryRun = false) (disk : Disk) (entry : Entry) :
    (∃ file text location, job.Makes disk entry file text ∧
      disk.locate? (Path.join job.output file.full) = some location ∧
      disk.isFolder location = false ∧
      (job.renderEntry entry : StateM Disk _).run disk =
        (.ok (), disk.put location (.file text.toUTF8))) ∨
    ∃ e, job.Fault disk entry e ∧
      (job.renderEntry entry : StateM Disk _).run disk = (.error e, disk) := by
  obtain ⟨file, text, hmakes, hrun⟩ | ⟨e, hfault, hrun⟩ := run_produce job disk entry
  · have hrender := renderEntry_of_produced hdry hrun
    cases hwrite : disk.write? (Path.join job.output file.full) text.toUTF8 with
    | none =>
        rw [hwrite] at hrender
        exact Or.inr ⟨_, Fault.notWritten hmakes hwrite, hrender⟩
    | some next =>
        rw [hwrite] at hrender
        obtain ⟨location, hlocate, hfree, rfl⟩ := Disk.write?_eq_some_iff.mp hwrite
        exact Or.inl ⟨file, text, location, hmakes, hlocate, hfree, hrender⟩
  · exact Or.inr ⟨e, hfault, renderEntry_of_error hrun⟩

theorem renderEntries_cons_of_passed (hselects : job.selects entry = false) (rest : List Entry) :
    (job.renderEntries (entry :: rest) : m _) = job.renderEntries rest := by
  rw [renderEntries, hselects, if_neg Bool.false_ne_true]

theorem renderEntries_cons_of_ok {next : Disk} (hselects : job.selects entry = true)
    (h : (job.renderEntry entry : StateM Disk _).run disk = (.ok (), next)) :
    (job.renderEntries (entry :: rest) : StateM Disk _).run disk =
      (job.renderEntries rest : StateM Disk _).run next := by
  rw [renderEntries, if_pos hselects, run_bind_eq h]

theorem renderEntries_cons_of_error {next : Disk} {e : Failure}
    (hselects : job.selects entry = true)
    (h : (job.renderEntry entry : StateM Disk _).run disk = (.error e, next)) :
    (job.renderEntries (entry :: rest) : StateM Disk _).run disk = (.error e, next) := by
  rw [renderEntries, if_pos hselects, run_bind_eq h]
  rfl

/-- The entries that are rendered before the first that fails, if there is one. -/
theorem run_renderEntries (hdry : job.dryRun = false) (disk : Disk) (entries : List Entry) :
    ∃ done rest written result, entries.filter job.selects = done ++ rest ∧
      job.Wrote disk done written ∧
      (job.renderEntries entries : StateM Disk _).run disk = (result, disk.holding written) ∧
      (rest = [] ∧ result = .ok () ∨ ∃ entry later e, rest = entry :: later ∧
        job.Fault (disk.holding written) entry e ∧ result = .error e) := by
  induction entries generalizing disk with
  | nil => exact ⟨[], [], [], .ok (), rfl, Wrote.nil, rfl, Or.inl ⟨rfl, rfl⟩⟩
  | cons entry rest ih =>
      cases hselects : job.selects entry with
      | false =>
          rw [List.filter_cons_of_neg (by simp [hselects]), renderEntries_cons_of_passed hselects]
          exact ih disk
      | true =>
          rw [List.filter_cons_of_pos hselects]
          obtain ⟨file, text, location, hmakes, hlocate, hfree, hrun⟩ | ⟨e, hfault, hrun⟩ :=
            run_renderEntry hdry disk entry
          · rw [renderEntries_cons_of_ok hselects hrun]
            obtain ⟨done, later, written, result, hsplit, hwrote, hrest, hend⟩ :=
              ih (disk.put location (.file text.toUTF8))
            refine ⟨entry :: done, later, (location, text) :: written, result, ?_,
              Wrote.cons hmakes hlocate hfree hwrote, hrest, hend⟩
            rw [hsplit, List.cons_append]
          · rw [renderEntries_cons_of_error hselects hrun]
            exact ⟨[], entry :: rest.filter job.selects, [], .error e, rfl, Wrote.nil, rfl,
              Or.inr ⟨entry, _, e, rfl, hfault, rfl⟩⟩

/-! The whole run. -/

theorem renderEntries_withEntries (job : Job) (others entries : List Entry) :
    ((job.withEntries others).renderEntries entries : m _) = job.renderEntries entries := by
  induction entries with
  | nil => rfl
  | cons entry rest ih =>
      rw [renderEntries, renderEntries, ih]
      rfl

theorem renderEntries_filter (job : Job) (entries : List Entry) :
    (job.renderEntries (entries.filter job.selects) : m _) = job.renderEntries entries := by
  induction entries with
  | nil => rfl
  | cons entry rest ih =>
      cases hselects : job.selects entry with
      | false =>
          rw [List.filter_cons_of_neg (by simp [hselects]), ih,
            renderEntries_cons_of_passed hselects]
      | true => rw [List.filter_cons_of_pos hselects, renderEntries, renderEntries, ih]

/-- Entries that do not take part may as well be absent. -/
theorem run_withEntries_selected (job : Job) :
    ((job.withEntries job.selected).run : m _) = job.run := by
  have hentries : (job.withEntries job.selected).config.entries = job.selected := rfl
  have hdry : (job.withEntries job.selected).dryRun = job.dryRun := rfl
  have houtput : (job.withEntries job.selected).output = job.output := rfl
  rw [run, run, hentries, hdry, houtput, renderEntries_withEntries, selected, renderEntries_filter]

theorem run_of_ready (hdry : job.dryRun = false)
    (hready : disk.makeFolders job.output = (true, start)) :
    (job.run : StateM Disk _).run disk =
      (job.renderEntries job.config.entries : StateM Disk _).run start := by
  have hfolders : (Files.makeFolders job.output : StateM Disk _).run disk = (true, start) := hready
  rw [run, hdry, if_neg Bool.false_ne_true, run_bind_eq hfolders]
  rfl

end Job

variable {readers : Readers} {options : Options} {path : String} {config : Config}
  {disk start : Disk} {entry : Entry}

/-- What the options ask of an entry that takes part: it is enabled, an included pattern admits its
identifier, where there are any, and no excluded one does. -/
structure TakesPart (readers : Readers) (options : Options) (entry : Entry) : Prop where
  enabled : entry.enabled = true
  included : options.included = [] ∨ ∃ pattern ∈ options.included,
    (Pattern.ofStringBy readers.expression pattern).admits entry.identifier = true
  not_excluded : ∀ pattern ∈ options.excluded,
    (Pattern.ofStringBy readers.expression pattern).admits entry.identifier = false

theorem mem_selected_iff :
    entry ∈ (Job.of readers options path config).selected ↔
      entry ∈ config.entries ∧ TakesPart readers options entry := by
  have hselects : (Job.of readers options path config).selects entry = true ↔
      TakesPart readers options entry := by
    rw [Job.selects, Bool.and_eq_true, Bool.not_eq_true', Pattern.skips_eq_false_iff, Job.of]
    simp only [List.map_eq_nil_iff, List.mem_map, exists_exists_and_eq_and, forall_exists_index,
      and_imp, forall_apply_eq_imp_iff₂]
    exact ⟨fun ⟨henabled, hincluded, hexcluded⟩ => ⟨henabled, hincluded, hexcluded⟩,
      fun h => ⟨h.enabled, h.included, h.not_excluded⟩⟩
  rw [Job.selected, List.mem_filter, hselects]
  rfl

theorem run_load (read : Config.Reader) (disk : Disk) (path : String) :
    (Config.load read path : StateM Disk _).run disk =
      (((disk.text? path).map (Config.parse read)).getD (.error .unreadable), disk) := by
  have hread : (Files.readText path : StateM Disk _).run disk = (disk.text? path, disk) := rfl
  rw [Config.load, run_bind_eq hread]
  cases disk.text? path with
  | none => rfl
  | some text => rfl

theorem render_of_load (hpath : options.config = some path)
    (hload : (Config.load readers.config path : StateM Disk _).run disk = (.ok config, disk)) :
    (render readers options : StateM Disk _).run disk =
      ((Job.of readers options path config).run : StateM Disk _).run disk := by
  simp only [render, hpath]
  rw [run_bind_eq hload]

/-- However configurations and expressions are read, a run that is not dry and can make its output
folder takes the entries that take part as if there were no others. It renders them in order up to
the first that fails. Then the disk is as before, with the folders on the way to the output folder
and, at the location of each file that was rendered, the last text that was written to it; for the
entry that fails there is nothing. -/
theorem render_effect (readers : Readers) (hpath : options.config = some path)
    (hload : (Config.load readers.config path : StateM Disk _).run disk = (.ok config, disk))
    (hdry : options.dryRun = false)
    (hready : disk.makeFolders (Job.of readers options path config).output = (true, start)) :
    let job := Job.of readers options path config
    (∀ entry, entry ∈ job.selected ↔ entry ∈ config.entries ∧ TakesPart readers options entry) ∧
      (render readers options : StateM Disk _).run disk =
        ((job.withEntries job.selected).run : StateM Disk _).run disk ∧
      (∀ location, start.node? location =
        if location ∈ Disk.way (disk.origin job.output) (Path.components job.output) then
          some .folder
        else disk.node? location) ∧
      ∃ done rest written result last, job.selected = done ++ rest ∧
        (render readers options : StateM Disk _).run disk = (result, last) ∧
        job.Wrote start done written ∧
        (rest = [] ∧ result = .ok () ∨ ∃ entry later e, rest = entry :: later ∧
          job.Fault last entry e ∧ result = .error e) ∧
        (∀ path, last.locate? path = start.locate? path) ∧
        ∀ location, last.node? location =
          match written.reverse.lookup location with
          | some text => some (.file text.toUTF8)
          | none => start.node? location := by
  intro job
  have hrender : (render readers options : StateM Disk _).run disk =
      (job.run : StateM Disk _).run disk := render_of_load hpath hload
  have hreal : job.dryRun = false := hdry
  obtain ⟨done, rest, written, result, hsplit, hwrote, hrun, hend⟩ :=
    Job.run_renderEntries hreal start config.entries
  have hfree := hwrote.free
  refine ⟨fun entry => mem_selected_iff, ?_, (Disk.node?_makeFolders hready).2, done, rest, written,
    result, start.holding written, hsplit, ?_, hwrote, hend, Disk.locate?_holding hfree,
    Disk.node?_holding hfree⟩
  · rw [hrender, Job.run_withEntries_selected]
  · rw [hrender, Job.run_of_ready hreal hready]
    exact hrun

/-- A configuration with entries that cannot be rendered. The last of them is the only one that is
neither switched off nor passed over. -/
def noteDisk : Disk where
  nodes := [(["work", "card.yaml"], .file
    ("templates:\n" ++
      "  - identifier: NotesTxt\n" ++
      "    body: hello\n" ++
      "  - identifier: DraftTxt\n" ++
      "    enabled: false\n" ++
      "    file: missing\n" ++
      "  - identifier: SecretTxt\n" ++
      "  - identifier: LogoPng\n" ++
      "    file: missing\n" ++
      "  - identifier: LaterTxt\n").toUTF8)]
  working := ["work"]

def noteOptions : Options where
  config := some "card.yaml"
  output := some "out"
  dryRun := false
  included := ["*Txt"]
  excluded := ["regex:^Secret"]
  suffix := none

def noteFailure : Failure :=
  .notPrepared "LaterTxt" (.missingBody "LaterTxt")

/-- One file is rendered before the run fails. The bodies of the entries in between are not there
and are not missed. -/
theorem render_note :
    ((render .builtIn noteOptions : StateM Disk _).run noteDisk).1 = .error noteFailure ∧
      ((render .builtIn noteOptions : StateM Disk _).run noteDisk).2.text? "out/notes.txt" =
        some "hello\n" ∧
      (((Config.load Config.ofYaml? "card.yaml" : StateM Disk _).run noteDisk).1.map fun config =>
        (config.entries.map (·.identifier),
          (Job.of .builtIn noteOptions "card.yaml" config).selected.map fun entry =>
            (entry.identifier, entry.file))) =
        .ok (["NotesTxt", "DraftTxt", "SecretTxt", "LogoPng", "LaterTxt"],
          [("NotesTxt", none), ("LaterTxt", none)]) := by
  decide +kernel

theorem exists_load_note :
    ∃ config, (Config.load Config.ofYaml? "card.yaml" : StateM Disk _).run noteDisk =
        (.ok config, noteDisk) ∧
      config.entries.map (·.identifier) =
        ["NotesTxt", "DraftTxt", "SecretTxt", "LogoPng", "LaterTxt"] ∧
      (Job.of .builtIn noteOptions "card.yaml" config).selected.map
        (fun entry => (entry.identifier, entry.file)) =
        [("NotesTxt", none), ("LaterTxt", none)] := by
  obtain ⟨-, -, hload⟩ := render_note
  rw [run_load] at hload ⊢
  cases hparse : ((noteDisk.text? "card.yaml").map (Config.parse Config.ofYaml?)).getD
      (.error .unreadable) with
  | error e =>
      rw [hparse] at hload
      cases hload
  | ok config =>
      rw [hparse] at hload
      obtain ⟨hidentifiers, hselected⟩ := Prod.ext_iff.mp (Except.ok.inj hload)
      exact ⟨config, rfl, hidentifiers, hselected⟩

theorem makeFolders_note :
    noteDisk.makeFolders "out" = (true, (noteDisk.makeFolders "out").2) := by
  have hmade : (noteDisk.makeFolders "out").1 = true := by decide
  rw [← hmade]

/-- Of five entries two take part, and the second of them fails. -/
theorem render_effect_notes :
    ∃ config start,
      (Config.load Config.ofYaml? "card.yaml" : StateM Disk _).run noteDisk =
        (.ok config, noteDisk) ∧
      config.entries.map (·.identifier) =
        ["NotesTxt", "DraftTxt", "SecretTxt", "LogoPng", "LaterTxt"] ∧
      (Job.of .builtIn noteOptions "card.yaml" config).selected.map (·.identifier) =
        ["NotesTxt", "LaterTxt"] ∧
      noteDisk.makeFolders "out" = (true, start) ∧
      ((render .builtIn noteOptions : StateM Disk _).run noteDisk).1 = .error noteFailure ∧
      ((render .builtIn noteOptions : StateM Disk _).run noteDisk).2.text? "out/notes.txt" =
        some "hello\n" ∧
      ∃ done entry later written,
        (Job.of .builtIn noteOptions "card.yaml" config).selected = done ++ entry :: later ∧
        (Job.of .builtIn noteOptions "card.yaml" config).Wrote start done written ∧
        (Job.of .builtIn noteOptions "card.yaml" config).Fault
          ((render .builtIn noteOptions : StateM Disk _).run noteDisk).2 entry noteFailure ∧
        ∀ location, ((render .builtIn noteOptions : StateM Disk _).run noteDisk).2.node? location =
          match written.reverse.lookup location with
          | some text => some (.file text.toUTF8)
          | none => start.node? location := by
  obtain ⟨config, hload, hidentifiers, hselected⟩ := exists_load_note
  have hnames := congrArg (List.map Prod.fst) hselected
  rw [List.map_map] at hnames
  obtain ⟨hfails, htext, -⟩ := render_note
  have hpath : noteOptions.config = some "card.yaml" := rfl
  have hdry : noteOptions.dryRun = false := rfl
  obtain ⟨-, -, -, done, rest, written, result, last, hsplit, hrun, hwrote, hend, -, hlast⟩ :=
    render_effect .builtIn hpath hload hdry makeFolders_note
  rw [hrun] at hfails htext ⊢
  obtain ⟨-, hok⟩ | ⟨entry, later, e, rfl, hfault, herror⟩ := hend
  · rw [hok] at hfails
    cases hfails
  · rw [herror] at hfails
    obtain rfl : e = noteFailure := Except.error.inj hfails
    exact ⟨config, _, hload, hidentifiers, hnames, makeFolders_note, herror, htext, done, entry,
      later, written, hsplit, hwrote, hfault, hlast⟩

end Command

end Stencil
