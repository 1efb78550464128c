import Mathlib.Data.String.Basic
import Stencil.Proofs.Disk.Path
import Stencil.Proofs.FileName.Recovery

/-!
What a derivation does to the signs that make a path: slashes and dots of the stem stand in the file
name as they are, in the same order. Whatever else is changed or put in between makes no new slash
and no name of dots alone. So a derived name leaves its folder exactly when the stem does.
-/

namespace Stencil

namespace Text

variable {c sign : Char}

/-- The lower-case form of no other character is a slash or a dot. -/
theorem eq_of_lowerChar_eq (hsign : sign = '/' ∨ sign = '.') (h : lowerChar c = sign) :
    c = sign := by
  have hascii : ∀ point < 0x80, (Char.ofNat point).toLower.toNat < 0x30 →
      (Char.ofNat point).toLower = Char.ofNat point := by
    decide +kernel
  have hshifts : ∀ shift ∈ lowerShifts, 0x2F < (shift.first : Int) + shift.delta := by
    decide +kernel
  have hpoint : 0 < sign.toNat ∧ sign.toNat < 0x30 := by
    rcases hsign with rfl | rfl
    · decide
    · decide
  rw [lowerChar] at h
  split at h
  · next hc =>
    have hkept := forall_ascii (p := fun c => c.toLower.toNat < 0x30 → c.toLower = c) hascii hc
    rw [h] at hkept
    exact (hkept hpoint.2).symm
  · cases hfind : lowerShifts.findSome? (·.image? c.toNat) with
    | none =>
        rw [hfind] at h
        exact h
    | some form =>
        obtain ⟨shift, hshift, himage⟩ := List.exists_of_findSome?_eq_some hfind
        rw [hfind, Option.getD_some] at h
        subst h
        have hfirst := hshifts shift hshift
        rw [CaseShift.image?] at himage
        split at himage
        · -- the form stands behind the slash, or it is no character at all
          rw [← Option.some.inj himage] at hpoint
          by_cases hvalid : ((c.toNat : Int) + shift.delta).toNat.isValidChar
          · have hform : (Char.ofNat ((c.toNat : Int) + shift.delta).toNat).toNat =
                ((c.toNat : Int) + shift.delta).toNat :=
              congrArg Char.toNat (dif_pos hvalid)
            omega
          · have hnone : Char.ofNat ((c.toNat : Int) + shift.delta).toNat = '\x00' :=
              dif_neg hvalid
            rw [hnone] at hpoint
            exact absurd hpoint.1 (by decide)
        · cases himage

theorem not_mem_lower (hsign : sign = '/' ∨ sign = '.') (hc : c ≠ sign) : sign ∉ lower c := by
  rw [lower]
  split
  · rcases hsign with rfl | rfl
    · decide
    · decide
  · rw [List.mem_singleton]
    intro h
    exact hc (eq_of_lowerChar_eq hsign h.symm)

theorem lowercaseFrom_sign (hsign : sign = '/' ∨ sign = '.') (casedBefore : Bool)
    (text : List Char) :
    ∃ next, lowercaseFrom casedBefore (sign :: text) = sign :: lowercaseFrom next text := by
  rcases hsign with rfl | rfl
  · exact ⟨_, rfl⟩
  · exact ⟨_, rfl⟩

/-- The form of any other character is a text without slashes and not of dots alone. -/
theorem lowercaseFrom_letter (hslash : c ≠ '/') (hdot : c ≠ '.') (casedBefore : Bool)
    (text : List Char) :
    ∃ form next, lowercaseFrom casedBefore (c :: text) = form ++ lowercaseFrom next text ∧
      '/' ∉ form ∧ ∃ d ∈ form, d ≠ '.' := by
  refine ⟨_, _, rfl, ?_⟩
  split
  · split
    · exact ⟨by decide, '\u03C2', List.mem_singleton_self _, by decide⟩
    · exact ⟨by decide, '\u03C3', List.mem_singleton_self _, by decide⟩
  · have hnodot : '.' ∉ lower c := not_mem_lower (Or.inr rfl) hdot
    obtain ⟨d, hd⟩ := List.exists_mem_of_ne_nil _ (lower_ne_nil c)
    exact ⟨not_mem_lower (Or.inl rfl) hslash, d, hd, ne_of_mem_of_not_mem hd hnodot⟩

end Text

namespace Path

/-- The same slashes and dots in the same places, and for every other character a text without
slashes and not of dots alone. -/
inductive Spells : List Char → List Char → Prop where
  | nil : Spells [] []
  | sign {sign : Char} {text spelled : List Char} (hsign : sign = '/' ∨ sign = '.')
      (h : Spells text spelled) : Spells (sign :: text) (sign :: spelled)
  | letter {c : Char} {form text spelled : List Char} (hslash : c ≠ '/') (hdot : c ≠ '.')
      (hform : '/' ∉ form) (hletter : ∃ d ∈ form, d ≠ '.') (h : Spells text spelled) :
      Spells (c :: text) (form ++ spelled)

variable {text spelled first second front back : List Char} {c : Char}

theorem Spells.append {more spelledMore : List Char} (h : Spells text spelled)
    (hmore : Spells more spelledMore) : Spells (text ++ more) (spelled ++ spelledMore) := by
  induction h with
  | nil => exact hmore
  | sign hsign _ ih => exact Spells.sign hsign ih
  | letter hslash hdot hform hletter _ ih =>
      rw [List.append_assoc]
      exact Spells.letter hslash hdot hform hletter ih

/-- Two names that are the same, or else neither of them is of dots alone. -/
def Alike (first second : List Char) : Prop :=
  first = second ∨ (∃ c ∈ first, c ≠ '.') ∧ ∃ c ∈ second, c ≠ '.'

theorem Alike.append (h : Alike front back) (hmore : Alike first second) :
    Alike (front ++ first) (back ++ second) := by
  rcases h with rfl | ⟨⟨c, hc, hcdot⟩, d, hd, hddot⟩
  · rcases hmore with rfl | ⟨⟨c, hc, hcdot⟩, d, hd, hddot⟩
    · exact Or.inl rfl
    · exact Or.inr ⟨⟨c, List.mem_append_right _ hc, hcdot⟩,
        ⟨d, List.mem_append_right _ hd, hddot⟩⟩
  · exact Or.inr ⟨⟨c, List.mem_append_left _ hc, hcdot⟩, ⟨d, List.mem_append_left _ hd, hddot⟩⟩

theorem Alike.eq_dots_iff (h : Alike first second) : first = ['.', '.'] ↔ second = ['.', '.'] := by
  rcases h with rfl | ⟨⟨c, hc, hcdot⟩, d, hd, hddot⟩
  · exact Iff.rfl
  · constructor
    · rintro rfl
      simp [hcdot] at hc
    · rintro rfl
      simp [hddot] at hd

/-- Names that go on with alike characters are alike piece by piece. -/
theorem forall₂_alike_pieces_append (hfront : '/' ∉ front) (hback : '/' ∉ back)
    (h : Alike front back) (hpieces : List.Forall₂ Alike (pieces text) (pieces spelled)) :
    List.Forall₂ Alike (pieces (front ++ text)) (pieces (back ++ spelled)) := by
  cases htext : pieces text with
  | nil => exact absurd htext (pieces_ne_nil text)
  | cons name names =>
      cases hspelled : pieces spelled with
      | nil => exact absurd hspelled (pieces_ne_nil spelled)
      | cons other others =>
          rw [htext, hspelled, List.forall₂_cons] at hpieces
          rw [pieces_append_of_no_slash hfront htext, pieces_append_of_no_slash hback hspelled]
          exact List.Forall₂.cons (h.append hpieces.1) hpieces.2

theorem Spells.forall₂_pieces (h : Spells text spelled) :
    List.Forall₂ Alike (pieces text) (pieces spelled) := by
  induction h with
  | nil => exact List.Forall₂.cons (Or.inl rfl) List.Forall₂.nil
  | sign hsign _ ih =>
      rcases hsign with rfl | rfl
      · rw [pieces_slash, pieces_slash]
        exact List.Forall₂.cons (Or.inl rfl) ih
      · have hdot : '/' ∉ ['.'] := by decide
        exact forall₂_alike_pieces_append hdot hdot (Or.inl rfl) ih
  | @letter c form _ _ hslash hdot hform hletter _ ih =>
      have hone : '/' ∉ [c] := fun h => hslash (List.mem_singleton.mp h).symm
      exact forall₂_alike_pieces_append hone hform
        (Or.inr ⟨⟨c, List.mem_singleton_self c, hdot⟩, hletter⟩) ih

theorem mem_dots_iff {names others : List (List Char)} (h : List.Forall₂ Alike names others) :
    ['.', '.'] ∈ names ↔ ['.', '.'] ∈ others := by
  induction h with
  | nil => exact Iff.rfl
  | cons halike _ ih =>
      rw [List.mem_cons, List.mem_cons, ih, eq_comm, halike.eq_dots_iff, eq_comm]

theorem Spells.head_eq_slash_iff (h : Spells text spelled) :
    spelled.head? = some '/' ↔ text.head? = some '/' := by
  cases h with
  | nil => exact Iff.rfl
  | sign => exact Iff.rfl
  | @letter c form _ _ hslash _ hform hletter =>
      obtain ⟨d, hd, -⟩ := hletter
      cases form with
      | nil => cases hd
      | cons first rest =>
          have hfirst : first ≠ '/' := by
            rintro rfl
            exact hform List.mem_cons_self
          simp [hfirst, hslash]

/-- What is spelled leaves its folder exactly when what it spells does. -/
theorem Spells.leaves_iff {path other : String} (h : Spells path.toList other.toList) :
    Leaves other ↔ Leaves path := by
  have hmap (path : String) : ".." ∈ components path ↔ ['.', '.'] ∈ pieces path.toList := by
    have hdots : ".." = String.ofList ['.', '.'] := rfl
    rw [mem_components_iff (by decide) (by decide), hdots,
      List.mem_map_of_injective (fun _ _ => String.ofList_inj.mp)]
  rw [Leaves, Leaves, isAbsolute, isAbsolute, decide_eq_true_iff, decide_eq_true_iff,
    h.head_eq_slash_iff, hmap, hmap, mem_dots_iff h.forall₂_pieces]

end Path

namespace FileName

variable {identifier suffix : String} {calls : Nat} {word : List Char} {words : List (List Char)}
  {file : FileName}

theorem spells_lowercaseFrom (casedBefore : Bool) (text : List Char) :
    Path.Spells text (Text.lowercaseFrom casedBefore text) := by
  induction text generalizing casedBefore with
  | nil => exact Path.Spells.nil
  | cons c rest ih =>
      by_cases hsign : c = '/' ∨ c = '.'
      · obtain ⟨next, hnext⟩ := Text.lowercaseFrom_sign hsign casedBefore rest
        rw [hnext]
        exact Path.Spells.sign hsign (ih next)
      · obtain ⟨hslash, hdot⟩ := not_or.mp hsign
        obtain ⟨form, next, hnext, hform, hletter⟩ :=
          Text.lowercaseFrom_letter hslash hdot casedBefore rest
        rw [hnext]
        exact Path.Spells.letter hslash hdot hform hletter (ih next)

/-- A word that begins with a capital. A separator in front of it never stands alone. -/
def Capitalized (word : List Char) : Prop :=
  ∃ c ∈ word.head?, c.isUpper = true

theorem Capitalized.spells {separator : Char} (h : Capitalized word)
    (hseparator : separator ≠ '/') : Path.Spells word (separator :: Text.lowercase word) := by
  obtain ⟨c, hc, hupper⟩ := h
  cases word with
  | nil => cases hc
  | cons first rest =>
      obtain rfl : first = c := Option.some.inj hc
      have hslash : first ≠ '/' := by
        rintro rfl
        cases hupper
      have hdot : first ≠ '.' := by
        rintro rfl
        cases hupper
      obtain ⟨form, next, hnext, hform, d, hd, hddot⟩ :=
        Text.lowercaseFrom_letter hslash hdot false rest
      have hseparated : '/' ∉ separator :: form := by
        rw [List.mem_cons, not_or]
        exact ⟨Ne.symm hseparator, hform⟩
      rw [Text.lowercase, hnext, ← List.cons_append]
      exact Path.Spells.letter hslash hdot hseparated ⟨d, List.mem_cons_of_mem _ hd, hddot⟩
        (spells_lowercaseFrom next rest)

theorem spells_separated (h : ∀ word ∈ words, Capitalized word) :
    Path.Spells words.flatten ((words.map Text.lowercase).flatMap ('-' :: ·)) := by
  induction words with
  | nil => exact Path.Spells.nil
  | cons word rest ih =>
      obtain ⟨hword, hrest⟩ := List.forall_mem_cons.mp h
      rw [List.flatten_cons, List.map_cons, List.flatMap_cons]
      exact (hword.spells (by decide)).append (ih hrest)

theorem capitalized_of_mem_segments {first : String} {rest : List String}
    (h : segments identifier = first :: rest) :
    ∀ word ∈ rest.map String.toList, Capitalized word := by
  rw [List.forall_mem_map]
  intro segment hsegment
  have hcut := camelCut_segments identifier
  rw [h] at hcut
  exact hcut.begins segment hsegment

theorem eq_of_derive_eq_ok (h : derive identifier suffix keepSegments calls = .ok file) :
    stem identifier suffix ≠ "" ∧ file = ⟨joined keepSegments calls (nameParts identifier suffix),
      extensionPart? identifier suffix⟩ := by
  have hnamed : ¬ Nameless identifier suffix keepSegments calls := by
    intro hnameless
    rw [derive_of_nameless hnameless] at h
    cases h
  rw [derive_of_not_nameless hnamed] at h
  exact ⟨fun hempty => hnamed (Or.inl hempty), (Except.ok.inj h).symm⟩

/-- The full name spells the stem: besides the characters of the stem in lower case it has a dash or
a dot before each capital but one that begins the stem. -/
theorem spells_full (hderive : derive identifier suffix keepSegments calls = .ok file) :
    Path.Spells (stem identifier suffix).toList file.full.toList := by
  obtain ⟨hstem, rfl⟩ := eq_of_derive_eq_ok hderive
  rw [← flatMap_segments]
  cases hsegments : segments (stem identifier suffix) with
  | nil => exact absurd (segments_eq_nil_iff.mp hsegments) hstem
  | cons first rest =>
      have hcapitals := capitalized_of_mem_segments hsegments
      have hparts : parts identifier suffix = lowered first :: rest.map lowered := by
        rw [parts_eq_map, hsegments, List.map_cons]
      have hlowered (segment : String) : (lowered segment).toList = Text.lowercase segment.toList :=
        String.toList_ofList
      obtain rfl | ⟨middle, last, rfl⟩ := List.eq_nil_or_concat' rest
      · obtain ⟨hname, hextension⟩ := nameParts_of_singleton hparts
        rw [hname, hextension, joined_keepSegments, full, String.toList_ofList, List.map_singleton,
          List.intercalate_singleton, hlowered, List.flatMap_singleton]
        exact spells_lowercaseFrom false first.toList
      · rw [List.map_append, List.forall_mem_append, List.map_singleton,
          List.forall_mem_singleton] at hcapitals
        obtain ⟨hmiddle, hlast⟩ := hcapitals
        have hfront : parts identifier suffix =
            (lowered first :: middle.map lowered) ++ [lowered last] := by
          rw [hparts, List.map_append, List.map_singleton, List.cons_append]
        obtain ⟨hname, hextension⟩ := nameParts_of_append (List.cons_ne_nil _ _) hfront
        have hdot : ".".toList = ['.'] := rfl
        rw [hname, hextension, joined_keepSegments, full, String.toList_append,
          String.toList_append, String.toList_ofList, List.map_cons,
          Text.intercalate_singleton_cons, hlowered, hlowered, hdot, List.append_assoc,
          List.append_assoc, List.singleton_append]
        have hwords : (middle.map lowered).map String.toList =
            (middle.map String.toList).map Text.lowercase := by
          rw [List.map_map, List.map_map]
          exact List.map_congr_left fun segment _ => hlowered segment
        rw [hwords, List.flatMap_cons, List.flatMap_append, List.flatMap_singleton,
          List.flatMap_def]
        exact (spells_lowercaseFrom false first.toList).append
          ((spells_separated hmiddle).append (hlast.spells (by decide)))

/-- A derived name leaves the folder exactly when the identifier does without its suffix. -/
theorem leaves_full_iff (hderive : derive identifier suffix keepSegments calls = .ok file) :
    Path.Leaves file.full ↔ Path.Leaves (stem identifier suffix) :=
  (spells_full hderive).leaves_iff

end FileName

end Stencil
