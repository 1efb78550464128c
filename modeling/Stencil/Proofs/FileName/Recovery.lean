import Stencil.Proofs.FileName.Derivation
import Stencil.Text.Alphanumeric
import Stencil.Text.Separated

/-!
The stem of an identifier recovered from its file name. A stem of ASCII letters and digits holds no
dash and no dot, so in the full name these stand between two segments only, and a capital is put
back where each segment begins. Therefore different stems never share a file.
-/

namespace Stencil.FileName

/-- A stem in camel case: ASCII letters and digits, the first one a capital. -/
structure Camel (stem : String) : Prop where
  begins : ∃ c ∈ stem.toList.head?, c.isUpper = true
  plain : ∀ c ∈ stem.toList, c.isAlphanum = true

/-- A segment of such a stem. -/
structure Hump (word : List Char) : Prop where
  begins : ∃ c ∈ word.head?, c.isUpper = true
  goesOn : ∀ c ∈ word.tail, c.isUpper = false
  plain : ∀ c ∈ word, c.isAlphanum = true

/-- What stands between two parts of a full name. -/
def isSeparator (c : Char) : Bool :=
  c == '-' || c == '.'

/-- A part of a full name with a capital in front again. -/
def capitalized : List Char → List Char
  | [] => []
  | c :: rest => c.toUpper :: rest

/-- The stem that a full name was made from. -/
def recovered (full : String) : String :=
  String.ofList ((full.toList.splitOnP isSeparator).flatMap capitalized)

variable {identifier suffix : String} {word : List Char}

theorem toUpper_toLower {c : Char} (halphanum : c.isAlphanum = true) (h : c.isUpper = true) :
    c.toLower.toUpper = c :=
  Text.forall_isAlphanum (p := fun c => c.isUpper = true → c.toLower.toUpper = c) (by decide)
    halphanum h

theorem toLower_eq_self {c : Char} (halphanum : c.isAlphanum = true) (h : c.isUpper = false) :
    c.toLower = c :=
  Text.forall_isAlphanum (p := fun c => c.isUpper = false → c.toLower = c) (by decide) halphanum h

theorem not_isSeparator_toLower {c : Char} (h : c.isAlphanum = true) :
    isSeparator c.toLower = false :=
  Text.forall_isAlphanum (p := fun c => isSeparator c.toLower = false) (by decide) h

theorem lowercase_of_plain (h : ∀ c ∈ word, c.isAlphanum = true) :
    Text.lowercase word = word.map Char.toLower := by
  apply Text.lowercase_of_ascii
  intro c hc
  exact Text.toNat_lt_of_isAlphanum (h c hc)

theorem Hump.capitalized_lowercase (h : Hump word) :
    capitalized (Text.lowercase word) = word := by
  rw [lowercase_of_plain h.plain]
  obtain ⟨c, hhead, hupper⟩ := h.begins
  obtain ⟨rest, rfl⟩ := List.head?_eq_some_iff.mp hhead
  have hrest : rest.map Char.toLower = rest.map id := by
    apply List.map_congr_left
    intro d hd
    exact toLower_eq_self (h.plain d (List.mem_cons_of_mem c hd)) (h.goesOn d hd)
  rw [List.map_cons, capitalized, toUpper_toLower (h.plain c List.mem_cons_self) hupper, hrest,
    List.map_id]

theorem Hump.not_isSeparator (h : Hump word) :
    ∀ c ∈ Text.lowercase word, isSeparator c = false := by
  rw [lowercase_of_plain h.plain, List.forall_mem_map]
  intro c hc
  exact not_isSeparator_toLower (h.plain c hc)

theorem Camel.hump (h : Camel identifier) :
    ∀ segment ∈ segments identifier, Hump segment.toList := by
  have hcut := camelCut_segments identifier
  have hchars := flatMap_segments identifier
  intro segment hsegment
  refine ⟨?_, hcut.goesOn segment hsegment, ?_⟩
  · obtain ⟨first, rest, hsegments⟩ := List.exists_cons_of_ne_nil (List.ne_nil_of_mem hsegment)
    rw [hsegments] at hsegment
    rcases List.mem_cons.mp hsegment with rfl | hrest
    · -- The first segment is the front of the stem, so they begin with the same character.
      have hne : segment.toList ≠ [] := by
        simpa using hcut.nonempty segment (by simp [hsegments])
      have hfront := h.begins
      rwa [← hchars, hsegments, List.flatMap_cons, List.head?_append_of_ne_nil _ hne] at hfront
    · exact hcut.begins segment (by simpa [hsegments] using hrest)
  · intro c hc
    apply h.plain c
    rw [← hchars]
    exact List.mem_flatMap.mpr ⟨segment, hsegment, hc⟩

theorem joined_keepSegments (calls : Nat) (names : List String) :
    joined keepSegments calls names =
      String.ofList (List.intercalate ['-'] (names.map String.toList)) := by
  have hkept : names.mapIdx (fun i name => (keepSegments (calls + i + 1) name).toList) =
      names.map String.toList := by
    apply List.ext_getElem?
    simp [keepSegments]
  rw [joined, hkept]

/-- The parts come back from the full name, the extension as the last of them. -/
theorem splitOnP_full (hne : parts identifier suffix ≠ [])
    (h : ∀ part ∈ parts identifier suffix, ∀ c ∈ part.toList, isSeparator c = false)
    (calls : Nat) :
    (full ⟨joined keepSegments calls (nameParts identifier suffix),
      extensionPart? identifier suffix⟩).toList.splitOnP isSeparator =
      (parts identifier suffix).map String.toList := by
  obtain hnil | ⟨front, last, hparts⟩ := List.eq_nil_or_concat (parts identifier suffix)
  · exact absurd hnil hne
  · rw [List.concat_eq_append] at hparts
    rw [hparts] at h
    have hlast : ∀ c ∈ last.toList, isSeparator c = false := h last (by simp)
    by_cases hfront : front = []
    · subst hfront
      rw [List.nil_append] at hparts
      obtain ⟨hname, hextension⟩ := nameParts_of_singleton hparts
      rw [hname, hextension, hparts, joined_keepSegments, full]
      simp [List.intercalate_singleton, List.splitOnP_eq_singleton hlast]
    · obtain ⟨hname, hextension⟩ := nameParts_of_append hfront hparts
      have hwords : ∀ word ∈ front.map String.toList, ∀ c ∈ word, isSeparator c = false := by
        rw [List.forall_mem_map]
        intro part hpart
        exact h part (List.mem_append_left _ hpart)
      have hdot : ".".toList = ['.'] := rfl
      rw [hname, hextension, hparts, joined_keepSegments, full, String.toList_append,
        String.toList_append, String.toList_ofList, hdot, List.append_assoc, List.singleton_append,
        List.splitOnP_append_cons _ _ rfl,
        Text.splitOnP_intercalate rfl (by simpa using hfront) hwords,
        List.splitOnP_eq_singleton hlast, List.map_append]
      rfl

theorem Camel.ne_empty (h : Camel identifier) : identifier ≠ "" := by
  obtain ⟨c, hhead, -⟩ := h.begins
  rintro rfl
  cases hhead

theorem Camel.not_nameless (h : Camel (stem identifier suffix)) (calls : Nat) :
    ¬ Nameless identifier suffix keepSegments calls := by
  rintro (hempty | ⟨first, hfirst, -, hname⟩)
  · exact h.ne_empty hempty
  · have hne := (camelCut_segments _).nonempty first (List.mem_of_mem_head? hfirst)
    exact lowered_ne_empty hne hname

theorem Camel.recovered_full (h : Camel (stem identifier suffix)) (calls : Nat) :
    recovered (full ⟨joined keepSegments calls (nameParts identifier suffix),
      extensionPart? identifier suffix⟩) = stem identifier suffix := by
  have hne : parts identifier suffix ≠ [] := by
    rw [parts_eq_map, ne_eq, List.map_eq_nil_iff, segments_eq_nil_iff]
    exact h.ne_empty
  have hplain : ∀ part ∈ parts identifier suffix, ∀ c ∈ part.toList, isSeparator c = false := by
    rw [parts_eq_map, List.forall_mem_map]
    intro segment hsegment
    rw [lowered, String.toList_ofList]
    exact (h.hump segment hsegment).not_isSeparator
  have hwords : (parts identifier suffix).flatMap (fun part => capitalized part.toList) =
      (segments (stem identifier suffix)).flatMap String.toList := by
    rw [parts_eq_map, List.flatMap_map]
    apply List.flatMap_congr
    intro segment hsegment
    rw [lowered, String.toList_ofList, (h.hump segment hsegment).capitalized_lowercase]
  rw [recovered, splitOnP_full hne hplain, List.flatMap_map, hwords, flatMap_segments,
    String.ofList_toList]

/-- Identifiers in camel case have file names, and two of them have the same one exactly when their
stems are equal, also where different suffixes are left off. -/
theorem derive_full_eq_iff (first second firstSuffix secondSuffix : String) (calls more : Nat)
    (hfirst : Camel (stem first firstSuffix)) (hsecond : Camel (stem second secondSuffix)) :
    ∃ file other, derive first firstSuffix keepSegments calls = .ok file ∧
      derive second secondSuffix keepSegments more = .ok other ∧
      (file.full = other.full ↔ stem first firstSuffix = stem second secondSuffix) := by
  refine ⟨_, _, derive_of_not_nameless (hfirst.not_nameless calls),
    derive_of_not_nameless (hsecond.not_nameless more), ?_⟩
  constructor
  · intro hfull
    rw [← hfirst.recovered_full calls, hfull, hsecond.recovered_full more]
  · intro hstem
    rw [joined_keepSegments, joined_keepSegments, nameParts_eq, nameParts_eq, extensionPart?_eq,
      extensionPart?_eq, hstem]

/-- Capitals in a row are kept apart, and the suffix does not count. -/
theorem derive_full_http :
    Camel (stem "HTTPServer" "Template") ∧ Camel (stem "HttpServerView" "View") ∧
      ∃ file other, derive "HTTPServer" "Template" keepSegments 0 = .ok file ∧
        derive "HttpServerView" "View" keepSegments 3 = .ok other ∧
        file.full = "h-t-t-p.server" ∧ other.full = "http.server" ∧
        (file.full = other.full ↔ stem "HTTPServer" "Template" = stem "HttpServerView" "View") := by
  have hfirst : Camel (stem "HTTPServer" "Template") :=
    ⟨⟨'H', rfl, rfl⟩, List.all_eq_true.mp rfl⟩
  have hsecond : Camel (stem "HttpServerView" "View") :=
    ⟨⟨'H', rfl, rfl⟩, List.all_eq_true.mp rfl⟩
  obtain ⟨file, other, hfile, hother, hiff⟩ := derive_full_eq_iff _ _ _ _ 0 3 hfirst hsecond
  have hderive : derive "HTTPServer" "Template" keepSegments 0 =
      .ok ⟨"h-t-t-p", some "server"⟩ := rfl
  have hderiveOther : derive "HttpServerView" "View" keepSegments 3 =
      .ok ⟨"http", some "server"⟩ := rfl
  obtain rfl : ⟨"h-t-t-p", some "server"⟩ = file := Except.ok.inj (hderive.symm.trans hfile)
  obtain rfl : ⟨"http", some "server"⟩ = other := Except.ok.inj (hderiveOther.symm.trans hother)
  exact ⟨hfirst, hsecond, _, _, hfile, hother, rfl, rfl, hiff⟩

end Stencil.FileName
