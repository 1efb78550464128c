import Stencil.Proofs.Disk.Location
import Stencil.Proofs.FileName.Spelling

/-!
Where a file goes. Its full name is joined to the folder as it is, so it lies in the folder unless
the name begins at the root or goes up. No check keeps such names out: one that is given is refused
only when it is empty, and one that is derived has the slashes and dots of the identifier.
-/

namespace Stencil.FileName

variable {file : FileName}

/-- Without a slash there is one name that leads out of a folder, and it is a folder itself. -/
theorem leaves_iff_of_no_slash (h : '/' ∉ file.full.toList) :
    Path.Leaves file.full ↔ file.full = ".." := by
  have hrelative : Path.isAbsolute file.full = false := by
    rw [Path.isAbsolute, decide_eq_false_iff_not]
    intro hhead
    exact h (List.mem_of_mem_head? hhead)
  rw [Path.Leaves, hrelative, Path.mem_components_iff (by decide) (by decide),
    Path.pieces_of_no_slash h]
  simp [eq_comm]

/-- A text goes to the joined path of its file or nowhere. The path lies in every folder exactly
when the full name does not leave it: a name that begins at the root is the whole path, any other
stands behind the folder and must not go up. A derived name leaves the folder with its identifier,
and one without slashes only as two dots. As long as it does not, nothing changes outside. -/
theorem inside_join_full_iff (file : FileName) :
    (∀ (folder text : String) (disk : Disk),
      (deliver false folder file.full text : StateM Disk _).run disk =
        match disk.write? (Path.join folder file.full) text.toUTF8 with
        | some next => (.ok (Path.join folder file.full), next)
        | none => (.error (.unwritable (Path.join folder file.full)), disk)) ∧
    ((∀ folder, Path.Inside folder (Path.join folder file.full)) ↔ ¬ Path.Leaves file.full) ∧
    (Path.isAbsolute file.full = true → ∀ folder, Path.join folder file.full = file.full) ∧
    (Path.isAbsolute file.full = false → ∀ folder,
      Path.components (Path.join folder file.full) =
          Path.components folder ++ Path.components file.full ∧
        (Path.Inside folder (Path.join folder file.full) ↔
          ".." ∉ Path.components file.full)) ∧
    (∀ identifier suffix calls, derive identifier suffix keepSegments calls = .ok file →
      (Path.Leaves file.full ↔ Path.Leaves (stem identifier suffix))) ∧
    ('/' ∉ file.full.toList → (Path.Leaves file.full ↔ file.full = "..")) ∧
    (¬ Path.Leaves file.full → ∀ folder content (disk next : Disk), folder ≠ "" →
      disk.write? (Path.join folder file.full) content = some next →
      ∃ base, disk.locate? folder = some base ∧
        ∀ location, ¬ base <+: location → next.node? location = disk.node? location) := by
  refine ⟨?_, Path.forall_inside_join_iff, ?_, ?_, ?_, leaves_iff_of_no_slash, ?_⟩
  · intro folder text disk
    exact Disk.run_deliver disk false folder file.full text
  · intro habsolute folder
    exact Path.join_of_absolute habsolute
  · intro hrelative folder
    exact ⟨Path.components_join hrelative, Path.inside_join_iff hrelative⟩
  · intro identifier suffix calls hderive
    exact leaves_full_iff hderive
  · intro hstays folder content disk next hfolder hwrite
    obtain ⟨base, target, hbase, hbelow, hfree, rfl⟩ := Disk.write?_join hstays hfolder hwrite
    refine ⟨base, hbase, fun location houtside => ?_⟩
    have hother : location ≠ target := by
      rintro rfl
      exact houtside hbelow
    rw [Disk.node?_put hfree, if_neg hother]

/-- The name that is derived stays in every folder, and the one that is given is its own path. -/
theorem inside_join_notes :
    given "/missing/notes.txt" none = .ok ⟨"/missing/notes.txt", none⟩ ∧
      Path.isAbsolute "/missing/notes.txt" = true ∧
      Path.join "out" "/missing/notes.txt" = "/missing/notes.txt" ∧
      derive "NotesTxt" "Template" keepSegments 0 = .ok ⟨"notes", some "txt"⟩ ∧
      Path.isAbsolute "notes.txt" = false ∧ '/' ∉ "notes.txt".toList ∧
      Path.Inside "out" (Path.join "out" "notes.txt") ∧ ¬ Path.Leaves "notes.txt" ∧
      ¬ Path.Leaves (stem "NotesTxt" "Template") ∧
      ∃ next, (Disk.empty ["work"]).write? (Path.join "." "notes.txt") "".toUTF8 = some next ∧
        next.node? ["notes.txt"] = none := by
  obtain ⟨-, -, hjoin, -, -, -, -⟩ := inside_join_full_iff ⟨"/missing/notes.txt", none⟩
  obtain ⟨-, hinside, -, -, hderived, hbare, houtside⟩ := inside_join_full_iff ⟨"notes", some "txt"⟩
  have hderive : derive "NotesTxt" "Template" keepSegments 0 = .ok ⟨"notes", some "txt"⟩ := rfl
  have hslash : '/' ∉ "notes.txt".toList := by decide
  have hstays : ¬ Path.Leaves "notes.txt" := by
    intro hleaves
    exact absurd ((hbare hslash).mp hleaves) (by decide)
  have hwrite : (Disk.empty ["work"]).write? (Path.join "." "notes.txt") "".toUTF8 =
      some ((Disk.empty ["work"]).put ["work", "notes.txt"] (.file "".toUTF8)) := by
    rw [Disk.write?_eq_some_iff]
    exact ⟨_, by decide, by decide, rfl⟩
  obtain ⟨base, hbase, hrest⟩ := houtside hstays _ _ _ _ (by decide) hwrite
  have hwork : (Disk.empty ["work"]).locate? "." = some ["work"] := by decide
  obtain rfl : ["work"] = base := Option.some.inj (hwork.symm.trans hbase)
  refine ⟨rfl, rfl, hjoin rfl "out", hderive, rfl, hslash, hinside.mpr hstays "out", hstays,
    ?_, _, hwrite, ?_⟩
  · exact (not_congr (hderived _ _ _ hderive)).mp hstays
  · rw [hrest ["notes.txt"] (by decide)]
    rfl

/-- A name that begins at the root is not written in the folder, although the folder has a place for
it, and neither is one that goes up. -/
theorem not_inside_join_missing :
    given "/missing/notes.txt" none = .ok ⟨"/missing/notes.txt", none⟩ ∧
      ((deliver false "out" (full ⟨"/missing/notes.txt", none⟩) "" : StateM Disk _).run
          ((Disk.empty ["work"]).makeFolders "out/missing").2).1 =
        .error (.unwritable "/missing/notes.txt") ∧
      ¬ Path.Inside "out" "/missing/notes.txt" ∧
      given "../notes.txt" none = .ok ⟨"../notes.txt", none⟩ ∧
      ((deliver false "out" (full ⟨"../notes.txt", none⟩) "" : StateM Disk _).run
          ((Disk.empty ["work"]).makeFolders "out").2).1 =
        .ok "out/../notes.txt" ∧
      ¬ Path.Inside "out" "out/../notes.txt" := by
  refine ⟨rfl, ?_, ?_, rfl, ?_, ?_⟩
  · rfl
  · exact Path.not_inside_of_absolute rfl
  · rfl
  · rintro ⟨rest, hroute, hup⟩
    have hpath : Path.route "out/../notes.txt" = ["out"] ++ ["..", "notes.txt"] := by decide
    have hout : Path.route "out" = ["out"] := by decide
    rw [hpath, hout, List.append_cancel_left_eq] at hroute
    subst hroute
    exact hup List.mem_cons_self

end Stencil.FileName
