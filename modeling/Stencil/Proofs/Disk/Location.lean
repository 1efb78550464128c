import Mathlib.Data.List.Induction
import Stencil.Disk.Basic
import Stencil.Output
import Stencil.Proofs.Disk.Path

/-!
What file operations do to a disk, location by location. A file that is written is found at its
location and changes nothing else; in particular every path keeps its location, since no folder
comes or goes. Making folders changes exactly the locations that the path leads through. A path that
does not leave its folder can only write below it.
-/

namespace Stencil.Disk

variable {disk next : Disk} {location other target : Location} {node : Node} {content : ByteArray}
  {folder path : String} {names pieces : List String}

theorem isFolder_iff : disk.isFolder location = true ↔ disk.node? location = some .folder := by
  rw [isFolder]
  split
  · next h => simp [h]
  · next h => simpa using h

theorem isFolder_above_working (h : location <+: disk.working) : disk.isFolder location = true := by
  rw [isFolder_iff, node?, if_pos (List.isPrefixOf_iff_prefix.mpr h)]

theorem isFolder_origin (disk : Disk) (path : String) :
    disk.isFolder (disk.origin path) = true := by
  apply isFolder_above_working
  rw [origin]
  split
  · exact List.nil_prefix
  · exact List.prefix_refl _

theorem lookup_filter_ne (nodes : List (Location × Node)) (h : other ≠ location) :
    (nodes.filter fun entry => entry.1 ≠ location).lookup other = nodes.lookup other := by
  induction nodes with
  | nil => rfl
  | cons entry rest ih =>
      obtain ⟨key, found⟩ := entry
      by_cases hkey : key = location
      · subst hkey
        have hmiss : (other == key) = false := beq_eq_false_iff_ne.mpr h
        simp [List.lookup_cons, hmiss, ← ih]
      · simp [List.lookup_cons, hkey, ← ih]

/-- A node that is put where no folder is stands there, and all others stay. -/
theorem node?_put (hfree : disk.isFolder location = false) :
    (disk.put location node).node? other =
      if other = location then some node else disk.node? other := by
  have hplace : ¬ location <+: disk.working := by
    intro h
    rw [isFolder_above_working h] at hfree
    cases hfree
  rw [node?, node?, put]
  by_cases hother : other = location
  · subst hother
    rw [if_neg (mt List.isPrefixOf_iff_prefix.mp hplace), if_pos rfl, List.lookup_cons,
      beq_self_eq_true]
  · have hmiss : (other == location) = false := beq_eq_false_iff_ne.mpr hother
    rw [if_neg hother, List.lookup_cons, hmiss]
    dsimp only
    rw [lookup_filter_ne disk.nodes hother]

/-! Writing files. -/

theorem isFolder_put_file (hfree : disk.isFolder location = false) :
    (disk.put location (.file content)).isFolder other = disk.isFolder other := by
  rw [Bool.eq_iff_iff, isFolder_iff, isFolder_iff, node?_put hfree]
  split
  · next heq =>
    subst heq
    rw [← isFolder_iff, hfree]
    simp
  · exact Iff.rfl

theorem walk?_congr (h : ∀ location, next.isFolder location = disk.isFolder location)
    (location : Location) (names : List String) :
    next.walk? location names = disk.walk? location names := by
  induction names generalizing location with
  | nil => rfl
  | cons name rest ih => rw [walk?, walk?, h, ih]

/-- With the same folders, every path has the same location. -/
theorem locate?_congr (hworking : next.working = disk.working)
    (h : ∀ location, next.isFolder location = disk.isFolder location) (path : String) :
    next.locate? path = disk.locate? path := by
  rw [locate?, locate?, origin, origin, hworking, walk?_congr h]

theorem write?_eq_some_iff :
    disk.write? path content = some next ↔
      ∃ location, disk.locate? path = some location ∧ disk.isFolder location = false ∧
        next = disk.put location (.file content) := by
  rw [write?]
  cases disk.locate? path with
  | none => simp
  | some location =>
      cases hfolder : disk.isFolder location with
      | true => simp [hfolder]
      | false =>
          simp only [hfolder, Bool.false_eq_true, if_false, Option.some.injEq]
          constructor
          · intro hnext
            exact ⟨location, rfl, hfolder, hnext.symm⟩
          · rintro ⟨_, rfl, -, hnext⟩
            exact hnext.symm

/-- The disk with texts written to files, one after the other. -/
def holding (disk : Disk) (written : List (Location × String)) : Disk :=
  written.foldl (fun disk pair => disk.put pair.1 (.file pair.2.toUTF8)) disk

theorem holding_cons (disk : Disk) (location : Location) (text : String)
    (written : List (Location × String)) :
    disk.holding ((location, text) :: written) =
      (disk.put location (.file text.toUTF8)).holding written :=
  rfl

theorem isFolder_holding {written : List (Location × String)}
    (hfree : ∀ pair ∈ written, disk.isFolder pair.1 = false) (other : Location) :
    (disk.holding written).isFolder other = disk.isFolder other := by
  induction written generalizing disk with
  | nil => rfl
  | cons pair rest ih =>
      obtain ⟨hpair, hrest⟩ := List.forall_mem_cons.mp hfree
      rw [holding_cons, ih, isFolder_put_file hpair]
      intro next hnext
      rw [isFolder_put_file hpair, hrest next hnext]

theorem locate?_holding {written : List (Location × String)}
    (hfree : ∀ pair ∈ written, disk.isFolder pair.1 = false) (path : String) :
    (disk.holding written).locate? path = disk.locate? path := by
  have hworking : (disk.holding written).working = disk.working := by
    clear hfree
    induction written generalizing disk with
    | nil => rfl
    | cons pair rest ih =>
        rw [holding_cons]
        exact ih
  exact locate?_congr hworking (isFolder_holding hfree) path

/-- At each location stands the last text that was written to it, and what was there before where
none was. -/
theorem node?_holding {written : List (Location × String)}
    (hfree : ∀ pair ∈ written, disk.isFolder pair.1 = false) (other : Location) :
    (disk.holding written).node? other =
      match written.reverse.lookup other with
      | some text => some (.file text.toUTF8)
      | none => disk.node? other := by
  induction written using List.reverseRecOn with
  | nil => rfl
  | append_singleton front pair ih =>
      obtain ⟨hfront, hpair⟩ := List.forall_mem_append.mp hfree
      have hplace : (disk.holding front).isFolder pair.1 = false := by
        rw [isFolder_holding hfront, hpair pair List.mem_cons_self]
      have hlast : disk.holding (front ++ [pair]) =
          (disk.holding front).put pair.1 (.file pair.2.toUTF8) :=
        List.foldl_concat _ _ _ _
      rw [hlast, node?_put hplace, List.reverse_concat, List.lookup_cons]
      by_cases hother : other = pair.1
      · rw [if_pos hother, hother, beq_self_eq_true]
      · have hmiss : (other == pair.1) = false := beq_eq_false_iff_ne.mpr hother
        rw [if_neg hother, hmiss, ih hfront]

theorem run_writeText (disk : Disk) (path text : String) :
    (Files.writeText path text : StateM Disk _).run disk =
      match disk.write? path text.toUTF8 with
      | some next => (true, next)
      | none => (false, disk) := by
  simp only [Files.writeText, StateT.run_bind, StateT.run_get, pure_bind]
  cases disk.write? path text.toUTF8 with
  | none => rfl
  | some next => rfl

/-- A text is delivered at the joined path or not at all, and a dry run delivers nothing. -/
theorem run_deliver (disk : Disk) (dryRun : Bool) (folder name text : String) :
    (deliver dryRun folder name text : StateM Disk _).run disk =
      if dryRun then (.ok (Path.join folder name), disk)
      else
        match disk.write? (Path.join folder name) text.toUTF8 with
        | some next => (.ok (Path.join folder name), next)
        | none => (.error (.unwritable (Path.join folder name)), disk) := by
  cases dryRun with
  | true => rfl
  | false =>
      simp only [deliver, Bool.false_eq_true, if_false, StateT.run_bind, run_writeText]
      cases disk.write? (Path.join folder name) text.toUTF8 with
      | none => rfl
      | some next => rfl

/-! Where a walk can lead. -/

theorem walk?_append (disk : Disk) (location : Location) (first second : List String) :
    disk.walk? location (first ++ second) =
      (disk.walk? location first).bind fun between => disk.walk? between second := by
  induction first generalizing location with
  | nil => rfl
  | cons name rest ih =>
      rw [List.cons_append, walk?, walk?]
      split
      · exact ih _
      · rfl

theorem prefix_step {name : String} (hup : name ≠ "..") (location : Location) :
    location <+: step location name := by
  rw [step, if_neg hup]
  split
  · exact List.prefix_refl _
  · exact List.prefix_append _ _

theorem prefix_of_walk? (hup : ".." ∉ names) (h : disk.walk? location names = some target) :
    location <+: target := by
  induction names generalizing location with
  | nil =>
      cases h
      exact List.prefix_refl _
  | cons name rest ih =>
      rw [List.mem_cons, not_or] at hup
      rw [walk?] at h
      split at h
      · exact (prefix_step (Ne.symm hup.1) location).trans (ih hup.2 h)
      · cases h

theorem isUsable_of_join (h : Path.isAbsolute path = false) (hfolder : folder ≠ "")
    (husable : isUsable (Path.join folder path) = true) : isUsable folder = true := by
  have hjoin : ∃ rest, Path.join folder path = folder ++ rest := by
    have hhead : path.toList.head? ≠ some '/' := by simpa [Path.isAbsolute] using h
    rw [Path.join, if_neg hhead]
    split
    · exact ⟨path, rfl⟩
    · exact ⟨"/" ++ path, String.append_assoc⟩
  obtain ⟨rest, hrest⟩ := hjoin
  rw [hrest] at husable
  simp only [isUsable, Bool.and_eq_true, decide_eq_true_eq, Bool.not_eq_true',
    String.utf8ByteSize_append, String.toList_append, List.contains_eq_mem,
    decide_eq_false_iff_not, List.mem_append, not_or] at husable ⊢
  exact ⟨⟨by simpa using hfolder, by omega⟩, husable.2.1⟩

/-- Where a walk goes on, it is at a folder, so that a slash may follow. -/
theorem walk?_slash (h : disk.walk? location names = some target) (hnames : names ≠ []) :
    disk.walk? location [""] = some location := by
  cases names with
  | nil => exact absurd rfl hnames
  | cons name rest =>
      rw [walk?] at h
      split at h
      · next hfolder =>
        rw [walk?, if_pos ⟨hfolder.1, by decide⟩]
        rfl
      · cases h

/-- A relative path below a folder is looked up from the location of the folder on. -/
theorem walk?_of_locate?_join (hrelative : Path.isAbsolute path = false) (hfolder : folder ≠ "")
    (h : disk.locate? (Path.join folder path) = some location) :
    ∃ base, disk.locate? folder = some base ∧
      disk.walk? base ((Path.pieces path.toList).map String.ofList) = some location := by
  obtain ⟨front, hfront, hjoin⟩ := Path.toList_join hrelative hfolder
  rw [locate?] at h
  split at h
  · next husable =>
    rw [hjoin, Path.pieces_append_slash, List.map_append, walk?_append, origin,
      Path.isAbsolute_join hrelative hfolder, ← origin] at h
    obtain ⟨base, hbase, hrest⟩ := Option.bind_eq_some_iff.mp h
    refine ⟨base, ?_, hrest⟩
    rw [locate?, if_pos (isUsable_of_join hrelative hfolder husable)]
    rcases hfront with hplain | hslash
    · rw [hplain, hbase]
    · rw [hslash, Path.pieces_append_slash, List.map_append, walk?_append, hbase]
      exact walk?_slash hrest (by simpa using Path.pieces_ne_nil path.toList)
  · cases h

/-- A file that is written to a relative path below a folder, without two dots on the way, lies
below the location of the folder. -/
theorem write?_join (hstays : ¬ Path.Leaves path) (hfolder : folder ≠ "")
    (hwrite : disk.write? (Path.join folder path) content = some next) :
    ∃ base location, disk.locate? folder = some base ∧ base <+: location ∧
      disk.isFolder location = false ∧ next = disk.put location (.file content) := by
  obtain ⟨hrelative, hup⟩ := Path.not_leaves_iff.mp hstays
  obtain ⟨location, hlocate, hfree, hnext⟩ := write?_eq_some_iff.mp hwrite
  obtain ⟨base, hbase, hwalk⟩ := walk?_of_locate?_join hrelative hfolder hlocate
  have hpieces : ".." ∉ (Path.pieces path.toList).map String.ofList :=
    mt (Path.mem_components_iff (by decide) (by decide)).mpr hup
  exact ⟨base, location, hbase, prefix_of_walk? hpieces hwalk, hfree, hnext⟩

/-! Making folders. -/

/-- The locations that names lead through, the first one included. -/
def way (location : Location) (names : List String) : List Location :=
  names.scanl step location

theorem way_cons (location : Location) (name : String) (names : List String) :
    way location (name :: names) = location :: way (step location name) names :=
  List.scanl_cons

theorem mem_way_self (location : Location) (names : List String) :
    location ∈ way location names := by
  cases names with
  | nil => exact List.mem_singleton_self _
  | cons name rest =>
      rw [way_cons]
      exact List.mem_cons_self

/-- The way of the names alone, without those that lead nowhere, is part of the whole way. -/
theorem mem_way_filter (names : List String)
    (h : other ∈ way location (names.filter fun name => !(name.isEmpty || name = "."))) :
    other ∈ way location names := by
  induction names generalizing location with
  | nil => exact h
  | cons name rest ih =>
      rw [way_cons, List.mem_cons]
      by_cases hstays : name.isEmpty ∨ name = "."
      · have hstep : step location name = location := by rw [step, if_pos hstays]
        rw [List.filter_cons_of_neg (by simpa [or_iff_not_imp_left] using hstays)] at h
        rw [hstep]
        exact Or.inr (ih h)
      · rw [List.filter_cons_of_pos (by simpa using hstays), way_cons, List.mem_cons] at h
        exact h.imp_right ih

theorem way_dropLast_subset (location : Location) (names : List String) :
    way location names.dropLast ⊆ way location names := by
  induction names generalizing location with
  | nil => exact List.Subset.refl _
  | cons name rest ih =>
      cases rest with
      | nil =>
          rw [way_cons]
          exact List.cons_subset_cons _ (List.nil_subset _)
      | cons second rest =>
          rw [List.dropLast_cons_cons, way_cons, way_cons]
          exact List.cons_subset_cons _ (ih _)

theorem isFolder_of_mem_way (h : disk.walk? location names = some target)
    (htarget : disk.isFolder target = true) (hother : other ∈ way location names) :
    disk.isFolder other = true := by
  induction names generalizing location with
  | nil =>
      cases h
      rw [List.mem_singleton.mp hother, htarget]
  | cons name rest ih =>
      rw [walk?] at h
      split at h
      · next hfolder =>
        rw [way_cons, List.mem_cons] at hother
        rcases hother with rfl | hother
        · exact hfolder.1
        · exact ih h hother
      · cases h

/-- Some locations that held nothing hold folders now, all of them among the given ones. -/
structure Extends (disk next : Disk) (made : List Location) : Prop where
  working : next.working = disk.working
  node? : ∀ location, next.node? location = disk.node? location ∨
    location ∈ made ∧ disk.node? location = none ∧ next.node? location = some .folder

namespace Extends

variable {last : Disk} {made more : List Location}

theorem refl (disk : Disk) (made : List Location) : Extends disk disk made :=
  ⟨rfl, fun _ => Or.inl rfl⟩

theorem mono (h : Extends disk next made) (hmore : made ⊆ more) : Extends disk next more :=
  ⟨h.working, fun location => (h.node? location).imp_right fun hmade => ⟨hmore hmade.1, hmade.2⟩⟩

theorem trans (h : Extends disk next made) (h' : Extends next last made) :
    Extends disk last made := by
  refine ⟨h'.working.trans h.working, fun location => ?_⟩
  rcases h'.node? location with hsame | ⟨hmem, hnone, hfolder⟩
  · rw [hsame]
    exact h.node? location
  · rcases h.node? location with hsame | ⟨-, -, hother⟩
    · exact Or.inr ⟨hmem, hsame ▸ hnone, hfolder⟩
    · rw [hnone] at hother
      cases hother

theorem isFolder (h : Extends disk next made) (hfolder : disk.isFolder location = true) :
    next.isFolder location = true := by
  rw [isFolder_iff] at hfolder ⊢
  rcases h.node? location with hsame | ⟨-, -, hmade⟩
  · rw [hsame, hfolder]
  · exact hmade

theorem put (hnone : disk.node? location = none) (hmem : location ∈ made) :
    Extends disk (disk.put location .folder) made := by
  have hfree : disk.isFolder location = false := by rw [Disk.isFolder, hnone]
  refine ⟨rfl, fun other => ?_⟩
  rw [node?_put hfree]
  split
  · next heq =>
    subst heq
    exact Or.inr ⟨hmem, hnone, rfl⟩
  · exact Or.inl rfl

end Extends

/-- However far it gets, growing only adds folders on the way. -/
theorem extends_grow (disk : Disk) (location : Location) (names : List String) :
    Extends disk (disk.grow location names).1 (way location names) := by
  induction names generalizing disk location with
  | nil => exact Extends.refl _ _
  | cons name rest ih =>
      have hmore : way (step location name) rest ⊆ way location (name :: rest) := by
        rw [way_cons]
        exact List.subset_cons_self _ _
      rw [grow]
      split
      · exact Extends.refl _ _
      · dsimp only
        split
        · exact (ih _ _).mono hmore
        · exact Extends.refl _ _
        · next hnone =>
          exact (Extends.put hnone (hmore (mem_way_self _ _))).trans ((ih _ _).mono hmore)

/-- When growing gets to the end, there are folders all the way. -/
theorem isFolder_grow (hfolder : disk.isFolder location = true)
    (h : (disk.grow location names).2.isSome = true) (hother : other ∈ way location names) :
    (disk.grow location names).1.isFolder other = true := by
  have hextends := extends_grow disk location names
  induction names generalizing disk location with
  | nil =>
      rw [List.mem_singleton.mp hother]
      exact hextends.isFolder hfolder
  | cons name rest ih =>
      rw [way_cons, List.mem_cons] at hother
      rcases hother with rfl | hother
      · exact hextends.isFolder hfolder
      · rw [grow] at h ⊢
        split at h
        · cases h
        · next hlong =>
          rw [if_neg hlong]
          dsimp only at h ⊢
          split at h
          · next hnext => exact ih (isFolder_iff.mpr hnext) h hother (extends_grow _ _ _)
          · cases h
          · next hnone =>
            have hput : (disk.put (step location name) .folder).isFolder (step location name) =
                true := by
              have hfree : disk.isFolder (step location name) = false := by
                rw [isFolder, hnone]
              rw [isFolder_iff, node?_put hfree, if_pos rfl]
            exact ih hput h hother (extends_grow _ _ _)

/-- Where the folder of a path could be made, the disk is as before with folders all the way. -/
theorem node?_makeFolders (h : disk.makeFolders path = (true, next)) :
    next.working = disk.working ∧ ∀ other, next.node? other =
      if other ∈ way (disk.origin path) (Path.components path) then some .folder
      else disk.node? other := by
  have hboth : Extends disk next (way (disk.origin path) (Path.components path)) ∧
      ∀ other ∈ way (disk.origin path) (Path.components path), next.isFolder other = true := by
    rw [makeFolders] at h
    split at h
    · next hempty =>
      cases h
      have hpath : path = "" := by simpa using hempty
      subst hpath
      refine ⟨Extends.refl _ _, fun other hother => ?_⟩
      rw [List.mem_singleton.mp hother]
      exact isFolder_origin disk ""
    · split at h
      · cases h
      · dsimp only at h
        split at h
        · rw [Prod.mk.injEq] at h
          obtain ⟨hthere, rfl⟩ := h
          have hpart : way (disk.origin path) (Path.components path).dropLast ⊆
              way (disk.origin path) (Path.components path) := by
            exact way_dropLast_subset _ _
          have hextends := (extends_grow disk (disk.origin path)
            (Path.components path).dropLast).mono hpart
          refine ⟨hextends, fun other hother => ?_⟩
          -- the dot at the end asks for the whole path to be there
          generalize (disk.grow (disk.origin path) (Path.components path).dropLast).1 = grown
            at hthere hextends ⊢
          cases hlocate : grown.locate? path with
          | none =>
              rw [hlocate] at hthere
              cases hthere
          | some target =>
              rw [hlocate] at hthere
              rw [locate?] at hlocate
              split at hlocate
              · rw [origin, hextends.working, ← origin] at hlocate
                exact isFolder_of_mem_way hlocate hthere (mem_way_filter _ hother)
              · cases hlocate
        · rw [Prod.mk.injEq] at h
          obtain ⟨hfound, rfl⟩ := h
          exact ⟨extends_grow _ _ _, fun other hother =>
            isFolder_grow (isFolder_origin disk path) hfound hother⟩
  refine ⟨hboth.1.working, fun other => ?_⟩
  split
  · next hmem => exact isFolder_iff.mp (hboth.2 other hmem)
  · next hmem =>
    rcases hboth.1.node? other with hsame | ⟨hmade, -, -⟩
    · exact hsame
    · exact absurd hmade hmem

end Stencil.Disk
