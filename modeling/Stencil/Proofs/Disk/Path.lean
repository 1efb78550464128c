import Mathlib.Data.List.Basic
import Stencil.Disk.Path

/-!
Paths by their components. A path that is joined to a folder has the folder's components in front,
unless it is absolute and stands for itself. So whether it stays in the folder is a matter of the
path alone: it must not begin at the root and must not go up anywhere.
-/

namespace Stencil.Path

variable {folder path : String}

theorem pieces_ne_nil (chars : List Char) : pieces chars ≠ [] := by
  cases chars with
  | nil => simp [pieces]
  | cons c rest =>
      rw [pieces]
      split
      · simp
      · split <;> simp

theorem pieces_slash (rest : List Char) : pieces ('/' :: rest) = [] :: pieces rest := by
  rw [pieces, if_pos rfl]

/-- A slash is a cut wherever it stands. -/
theorem pieces_append_slash (front back : List Char) :
    pieces (front ++ '/' :: back) = pieces front ++ pieces back := by
  induction front with
  | nil => rw [List.nil_append, pieces_slash, pieces, List.singleton_append]
  | cons c front ih =>
      rw [List.cons_append, pieces, pieces, ih]
      split
      · rw [List.cons_append]
      · cases hfront : pieces front with
        | nil => exact absurd hfront (pieces_ne_nil front)
        | cons name names => rfl

theorem pieces_append_of_no_slash {front back name : List Char} {names : List (List Char)}
    (hfront : '/' ∉ front) (hback : pieces back = name :: names) :
    pieces (front ++ back) = (front ++ name) :: names := by
  induction front with
  | nil => exact hback
  | cons c rest ih =>
      rw [List.mem_cons, not_or] at hfront
      rw [List.cons_append, pieces, if_neg (Ne.symm hfront.1), ih hfront.2, List.cons_append]

theorem pieces_of_no_slash {chars : List Char} (h : '/' ∉ chars) : pieces chars = [chars] := by
  have hpieces : pieces (chars ++ []) = [chars ++ []] := pieces_append_of_no_slash h rfl
  rwa [List.append_nil] at hpieces

/-- What becomes of the pieces as components: empty ones and single dots do not count. -/
def names (pieces : List (List Char)) : List String :=
  (pieces.map String.ofList).filter fun name => !(name.isEmpty || name = ".")

theorem components_eq (path : String) : components path = names (pieces path.toList) :=
  rfl

theorem names_append (first second : List (List Char)) :
    names (first ++ second) = names first ++ names second := by
  rw [names, List.map_append, List.filter_append]
  rfl

theorem mem_components_iff {name : String} (hempty : name ≠ "") (hdot : name ≠ ".") :
    name ∈ components path ↔ name ∈ (pieces path.toList).map String.ofList := by
  rw [components, List.mem_filter]
  simp [hempty, hdot]

/-- All components of a path, so that two paths with the same ones are the same path: a slash for
the root, a dot that begins a relative path, and the names. -/
def route (path : String) : List String :=
  if isAbsolute path then "/" :: components path
  else if (pieces path.toList).head? = some ['.'] then "." :: components path
  else components path

theorem mem_route_iff {name : String} (hroot : name ≠ "/") (hdot : name ≠ ".") :
    name ∈ route path ↔ name ∈ components path := by
  rw [route]
  split
  · simp [hroot]
  · split
    · simp [hdot]
    · exact Iff.rfl

theorem join_of_absolute (h : isAbsolute path = true) : join folder path = path := by
  have hhead : path.toList.head? = some '/' := by simpa [isAbsolute] using h
  rw [join, if_pos hhead]

/-- A relative path stands behind the folder and a slash, which is not written twice. -/
theorem toList_join (h : isAbsolute path = false) (hfolder : folder ≠ "") :
    ∃ front, (folder.toList = front ∨ folder.toList = front ++ ['/']) ∧
      (join folder path).toList = front ++ '/' :: path.toList := by
  have hhead : path.toList.head? ≠ some '/' := by simpa [isAbsolute] using h
  by_cases hslash : folder.toList.getLast? = some '/'
  · obtain ⟨front, hfront⟩ := List.getLast?_eq_some_iff.mp hslash
    refine ⟨front, Or.inr hfront, ?_⟩
    rw [join, if_neg hhead, if_pos (Or.inr hslash), String.toList_append, hfront]
    simp
  · refine ⟨folder.toList, Or.inl rfl, ?_⟩
    have hplain : ¬ (folder.isEmpty ∨ folder.toList.getLast? = some '/') := by
      simpa [hfolder] using hslash
    rw [join, if_neg hhead, if_neg hplain]
    simp

theorem join_empty (h : isAbsolute path = false) : join "" path = path := by
  have hhead : path.toList.head? ≠ some '/' := by simpa [isAbsolute] using h
  have hempty : "".isEmpty = true ∨ "".toList.getLast? = some '/' := Or.inl rfl
  rw [join, if_neg hhead, if_pos hempty, String.empty_append]

theorem components_join (h : isAbsolute path = false) :
    components (join folder path) = components folder ++ components path := by
  by_cases hfolder : folder = ""
  · rw [hfolder, join_empty h]
    rfl
  · obtain ⟨front, hfront, hjoin⟩ := toList_join h hfolder
    have hnames : components folder = names (pieces front) := by
      rcases hfront with hplain | hslash
      · rw [components_eq, hplain]
      · rw [components_eq, hslash, pieces_append_slash, names_append]
        exact List.append_nil _
    rw [hnames, components_eq, hjoin, pieces_append_slash, names_append, ← components_eq]

theorem isAbsolute_join (h : isAbsolute path = false) (hfolder : folder ≠ "") :
    isAbsolute (join folder path) = isAbsolute folder := by
  obtain ⟨front, hfront, hjoin⟩ := toList_join h hfolder
  rw [isAbsolute, isAbsolute, hjoin]
  rcases hfront with hplain | hslash
  · have hne : front ≠ [] := by
      rw [← hplain]
      simpa using hfolder
    rw [hplain, List.head?_append_of_ne_nil _ hne]
  · rw [hslash, List.head?_append, List.head?_append]
    rfl

/-- Behind a folder a relative path begins where the folder begins. -/
theorem route_join_of_ne_empty (h : isAbsolute path = false) (hfolder : folder ≠ "") :
    route (join folder path) = route folder ++ components path := by
  obtain ⟨front, hfront, hjoin⟩ := toList_join h hfolder
  have hbegin : (pieces (join folder path).toList).head? = (pieces folder.toList).head? := by
    rw [hjoin, pieces_append_slash, List.head?_append_of_ne_nil _ (pieces_ne_nil front)]
    rcases hfront with hplain | hslash
    · rw [hplain]
    · rw [hslash, pieces_append_slash, List.head?_append_of_ne_nil _ (pieces_ne_nil front)]
  rw [route, route, isAbsolute_join h hfolder, hbegin, components_join h]
  split
  · rfl
  · split
    · rfl
    · rfl

/-- The path lies in the folder: it goes the folder's way first, and not up again after that. -/
def Inside (folder path : String) : Prop :=
  ∃ rest, route path = route folder ++ rest ∧ ".." ∉ rest

theorem inside_join_iff (h : isAbsolute path = false) :
    Inside folder (join folder path) ↔ ".." ∉ components path := by
  have hrest : ∃ rest, route (join folder path) = route folder ++ rest ∧
      (".." ∈ rest ↔ ".." ∈ components path) := by
    by_cases hfolder : folder = ""
    · refine ⟨route path, ?_, mem_route_iff (by decide) (by decide)⟩
      rw [hfolder, join_empty h]
      rfl
    · exact ⟨components path, route_join_of_ne_empty h hfolder, Iff.rfl⟩
  obtain ⟨rest, hroute, hup⟩ := hrest
  rw [← not_congr hup]
  constructor
  · rintro ⟨other, hother, hnone⟩
    rwa [List.append_cancel_left (hroute.symm.trans hother)]
  · intro hnone
    exact ⟨rest, hroute, hnone⟩

/-- A path that begins at the root is in no folder with a relative path of its own. -/
theorem not_inside_of_absolute (h : isAbsolute path = true) : ¬ Inside "out" path := by
  rintro ⟨rest, hroute, -⟩
  rw [route, if_pos h] at hroute
  have hout : route "out" = ["out"] := by decide
  rw [hout] at hroute
  simp at hroute

/-- A path that does not have to stay in a folder that it is joined to: it begins at the root, or it
goes up. -/
def Leaves (path : String) : Prop :=
  isAbsolute path = true ∨ ".." ∈ components path

theorem not_leaves_iff :
    ¬ Leaves path ↔ isAbsolute path = false ∧ ".." ∉ components path := by
  rw [Leaves, not_or, Bool.not_eq_true]

theorem forall_inside_join_iff :
    (∀ folder, Inside folder (join folder path)) ↔ ¬ Leaves path := by
  rw [not_leaves_iff]
  constructor
  · intro hinside
    cases habsolute : isAbsolute path with
    | true =>
        have hout := hinside "out"
        rw [join_of_absolute habsolute] at hout
        exact absurd hout (not_inside_of_absolute habsolute)
    | false => exact ⟨rfl, (inside_join_iff habsolute).mp (hinside "out")⟩
  · rintro ⟨hrelative, hup⟩ folder
    exact (inside_join_iff hrelative).mpr hup

end Stencil.Path
