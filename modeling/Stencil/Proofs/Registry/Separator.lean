import Mathlib.Data.List.Find
import Stencil.Proofs.Registry.Segmentation

/-!
Characters that occur in no placeholder. No placeholder reaches across one, so the texts on its two
sides are substituted apart; under a marker without a line feed this goes for every line of a body.
Values that begin and end with such characters keep the text around them apart in the same way, and
then no placeholder is left in the result.
-/

namespace Stencil.Replacements

variable {replacements : Replacements} {marker : List Char} {c : Char}

theorem first?_append_separator (hseparator : ∀ entry ∈ replacements, c ∉ entry.1)
    (front back : List Char) :
    replacements.first? (front ++ c :: back) = replacements.first? front := by
  unfold first?
  apply List.find?_congr
  intro entry hentry
  rw [Bool.eq_iff_iff, List.isPrefixOf_iff_prefix, List.isPrefixOf_iff_prefix,
    Text.prefix_append_cons_iff (hseparator entry hentry)]

/-- No replacement that is made in front of a separator takes it away, and none is made there that
would not be made without what is behind it. -/
theorem run_append_separator (hmarker : marker ≠ [])
    (hbegins : ∀ entry ∈ replacements, marker <+: entry.1)
    (hseparator : ∀ entry ∈ replacements, c ∉ entry.1) (front back : List Char) :
    replacements.run marker (front ++ c :: back) =
      replacements.run marker front ++ c :: replacements.run marker back := by
  -- On the length in front: a replacement takes a whole placeholder away from there.
  induction hlength : front.length using Nat.strongRecOn generalizing front with
  | _ n ih =>
      subst hlength
      have hfirst := first?_append_separator hseparator front back
      cases hfound : replacements.first? front with
      | some entry =>
          rw [hfound] at hfirst
          have hentry := hbegins entry (List.mem_of_find?_eq_some hfound)
          have hpositive := List.length_pos_iff.mpr hmarker
          have hmarkerLength := hentry.length_le
          have hentryLength := (prefix_of_first? hfound).length_le
          have hshorter : (front.drop entry.1.length).length < front.length := by
            rw [List.length_drop]
            omega
          rw [run_of_first? hmarker hentry hfirst, run_of_first? hmarker hentry hfound,
            List.drop_append_of_le_length hentryLength, ih _ hshorter _ rfl, List.append_assoc]
      | none =>
          rw [hfound] at hfirst
          cases front with
          | nil =>
              rw [List.nil_append] at hfirst ⊢
              rw [run_cons hfirst, run_nil, List.nil_append]
          | cons d rest =>
              rw [List.cons_append] at hfirst ⊢
              rw [run_cons hfirst, run_cons hfound, ih rest.length (by simp) rest rfl,
                List.cons_append]

theorem run_joinLines (hmarker : marker ≠ [])
    (hbegins : ∀ entry ∈ replacements, marker <+: entry.1)
    (hseparator : ∀ entry ∈ replacements, '\n' ∉ entry.1) {lines : List (List Char)}
    (hne : lines ≠ []) :
    replacements.run marker (Text.joinLines lines) =
      Text.joinLines (lines.map (replacements.run marker)) := by
  induction lines with
  | nil => exact absurd rfl hne
  | cons line rest ih =>
      cases rest with
      | nil => rfl
      | cons next more =>
          rw [Text.joinLines_cons (List.cons_ne_nil next more),
            run_append_separator hmarker hbegins hseparator, ih (List.cons_ne_nil next more)]
          rfl

end Stencil.Replacements

namespace Stencil.Piece

variable {marker text found : List Char} {keys : List String} {name : String}
  {pieces : List Piece} {value : String → List Char}

/-- What begins a filled text and cannot reach into a value began the text before. -/
theorem Reads.prefix_of_filled (h : Reads marker keys text pieces)
    (hbegins : ∀ key ∈ keys, ∃ c ∈ (value key).head?, c ∉ found)
    (hfound : found <+: pieces.flatMap (fill value)) : found <+: text := by
  induction h generalizing found with
  | done => exact hfound
  | slot hlongest _ _ =>
      obtain ⟨c, hhead, hc⟩ := hbegins _ hlongest.1
      obtain ⟨rest, hvalue⟩ := List.head?_eq_some_iff.mp hhead
      rw [List.flatMap_cons, fill, hvalue, List.cons_append] at hfound
      have hnil : found <+: [] := (Text.prefix_append_cons_iff hc [] _).mp hfound
      rw [List.prefix_nil.mp hnil]
      exact List.nil_prefix
  | literal _ _ ih =>
      cases found with
      | nil => exact List.nil_prefix
      | cons d more =>
          rw [List.flatMap_cons, fill, List.singleton_append, List.cons_prefix_cons] at hfound
          rw [List.cons_prefix_cons]
          refine ⟨hfound.1, ih ?_ hfound.2⟩
          intro key hkey
          obtain ⟨c, hhead, hc⟩ := hbegins key hkey
          exact ⟨c, hhead, fun hmem => hc (List.mem_cons_of_mem d hmem)⟩

/-- A placeholder that no value holds, begins with or ends with is nowhere in the filled text. -/
theorem Reads.not_infix_filled (h : Reads marker keys text pieces) (hmarker : marker ≠ [])
    (hname : name ∈ keys) (hfree : ∀ key ∈ keys, ¬ written marker name <:+: value key)
    (hbegins : ∀ key ∈ keys, ∃ c ∈ (value key).head?, c ∉ written marker name)
    (hends : ∀ key ∈ keys, ∃ c ∈ (value key).getLast?, c ∉ written marker name) :
    ¬ written marker name <:+: pieces.flatMap (fill value) := by
  induction h with
  | done =>
      intro hfound
      exact written_ne_nil hmarker name (List.infix_nil.mp hfound)
  | @slot key rest pieces hlongest _ ih =>
      obtain ⟨c, hlast, hc⟩ := hends key hlongest.1
      obtain ⟨front, hvalue⟩ := List.getLast?_eq_some_iff.mp hlast
      intro hfound
      -- The last character of the value is a border: what is found lies in the value or behind it.
      rw [List.flatMap_cons, fill, hvalue, List.append_assoc, List.singleton_append,
        Text.infix_append_cons_iff hc] at hfound
      rcases hfound with hinside | hbehind
      · apply hfree key hlongest.1
        rw [hvalue]
        exact hinside.trans (List.prefix_append front [c]).isInfix
      · exact ih hbehind
  | @literal c rest pieces hnone hrest ih =>
      intro hfound
      rw [List.flatMap_cons, fill, List.singleton_append, List.infix_cons_iff] at hfound
      rcases hfound with hhere | hbehind
      · -- What begins in the text that stayed stood there before, and then it was replaced.
        have hwhole := Reads.literal hnone hrest
        exact hnone name hname (hwhole.prefix_of_filled hbegins hhere)
      · exact ih hbehind

end Stencil.Piece

namespace Stencil.Registry

variable {registry : Registry} {c : Char}

/-- A character that occurs in no placeholder of a provided key. -/
def Separator (registry : Registry) (c : Char) : Prop :=
  ∀ key ∈ registry.keys, c ∉ (registry.placeholder key).toList

instance (registry : Registry) (c : Char) : Decidable (registry.Separator c) :=
  inferInstanceAs (Decidable (∀ key ∈ registry.keys, _))

/-- The line feed is one, unless the marker holds it: keys stand on one line. -/
theorem separator_newline (hmarker : '\n' ∉ registry.marker.toList)
    (hkeys : ∀ key ∈ registry.keys, isIdentifier key = true) : registry.Separator '\n' := by
  intro key hkey
  rw [toList_placeholder]
  exact Piece.newline_not_mem_written hmarker (hkeys key hkey)

theorem marker_prefix_replacement {entry : List Char × List Char}
    (hentry : entry ∈ registry.replacements.longestFirst) :
    registry.marker.toList <+: entry.1 := by
  rw [Replacements.mem_longestFirst] at hentry
  obtain ⟨⟨key, replacer⟩, -, rfl⟩ := List.mem_map.mp hentry
  exact Piece.marker_prefix_written registry.marker.toList key

theorem Separator.not_mem_replacement (h : registry.Separator c)
    {entry : List Char × List Char} (hentry : entry ∈ registry.replacements.longestFirst) :
    c ∉ entry.1 := by
  rw [Replacements.mem_longestFirst] at hentry
  obtain ⟨⟨key, replacer⟩, hmem, rfl⟩ := List.mem_map.mp hentry
  have hkey := h key (List.mem_map.mpr ⟨_, hmem, rfl⟩)
  rwa [toList_placeholder] at hkey

/-- A separator parts a text into two that are substituted each for itself: halves of placeholders
on its two sides do not come together. The line feed is one unless the marker holds it, and then
every line of a text is substituted for itself. -/
theorem substitute_separated (registry : Registry) (hmarker : registry.marker ≠ "")
    (hall : registry.AllRender) :
    (∀ (c : Char) (front back : String), registry.Separator c →
      ∃ first second, registry.substitute front = .ok first ∧
        registry.substitute back = .ok second ∧
        registry.substitute (front ++ String.singleton c ++ back) =
          .ok (first ++ String.singleton c ++ second)) ∧
    ('\n' ∉ registry.marker.toList → (∀ key ∈ registry.keys, isIdentifier key = true) →
      registry.Separator '\n' ∧ ∀ text : String, ∃ lines,
        (Text.splitLines text.toList).mapM (fun line => registry.substitute (String.ofList line)) =
          .ok lines ∧
        registry.substitute text =
          .ok (String.ofList (Text.joinLines (lines.map String.toList)))) := by
  have hchars := marker_toList_ne_nil hmarker
  have hbegins : ∀ entry ∈ registry.replacements.longestFirst, registry.marker.toList <+: entry.1 :=
    fun _ => marker_prefix_replacement
  constructor
  · intro c front back hseparator
    refine ⟨_, _, substitute_eq_run hall front, substitute_eq_run hall back, ?_⟩
    have hrun := Replacements.run_append_separator hchars hbegins
      (fun _ => hseparator.not_mem_replacement) front.toList back.toList
    have htext : (front ++ String.singleton c ++ back).toList =
        front.toList ++ c :: back.toList := by simp
    rw [substitute_eq_run hall, htext, hrun]
    apply congrArg Except.ok
    apply String.toList_injective
    simp
  · intro hbreak hkeys
    have hseparator := separator_newline hbreak hkeys
    refine ⟨hseparator, ?_⟩
    intro text
    have hrun := Replacements.run_joinLines hchars hbegins
      (fun _ => hseparator.not_mem_replacement) (Text.splitLines_ne_nil text.toList)
    rw [Text.joinLines_splitLines] at hrun
    refine ⟨(Text.splitLines text.toList).map fun line => String.ofList
      (registry.replacements.longestFirst.run registry.marker.toList line), ?_, ?_⟩
    · simp only [substitute_eq_run hall, String.toList_ofList]
      exact List.mapM_pure
    · rw [substitute_eq_run hall, hrun, List.map_map]
      simp [Function.comp_def]

/-- Two keys, one of which ends in the other. The value of the shorter one holds the begin of both
placeholders, that of the longer one is a whole placeholder but for a character. -/
def echo : Registry :=
  constants "__" ["a", "xa"] fun key => if key = "a" then "<__x>".toList else "(__a_)".toList

theorem assigns_echo : echo.Assigns "__" ["a", "xa"] := by
  apply assigns_constants (by decide) (by decide) (by decide)
  intro key
  dsimp only
  split <;> decide

theorem substitute_echo_separated :
    echo.marker ≠ "" ∧ echo.AllRender ∧ echo.Separator ' ' ∧
      echo.substitute "__a__ __xa__x__ __a" = .ok "<__x> (__a_)x__ __a" := by
  have hmarker : echo.marker ≠ "" := by decide
  have hall := assigns_echo.allRender
  have hseparator : echo.Separator ' ' := by decide +kernel
  have hfront : echo.substitute "__a__ __xa__x__" = .ok "<__x> (__a_)x__" := by
    rw [substitute_eq_ok assigns_echo.wellFormed hall]
    decide +kernel
  have hback : echo.substitute "__a" = .ok "__a" := by
    rw [substitute_eq_ok assigns_echo.wellFormed hall]
    decide +kernel
  obtain ⟨first, second, hfirst, hsecond, htext⟩ :=
    (substitute_separated echo hmarker hall).1 ' ' "__a__ __xa__x__" "__a" hseparator
  obtain rfl := Except.ok.inj (hfront.symm.trans hfirst)
  obtain rfl := Except.ok.inj (hback.symm.trans hsecond)
  exact ⟨hmarker, hall, hseparator, htext⟩

/-- A text between two separators that holds no placeholder. -/
structure Enclosed (registry : Registry) (text : String) : Prop where
  free : ∀ key ∈ registry.keys, ¬ (registry.placeholder key).toList <:+: text.toList
  begins : ∃ c ∈ text.toList.head?, registry.Separator c
  ends : ∃ c ∈ text.toList.getLast?, registry.Separator c

/-- Between enclosed values nothing is left that could be replaced: the text in between held no
placeholder already, and the values keep it apart. -/
theorem substitute_placeholder_free (registry : Registry) (text result : String)
    (hregistry : registry.WellFormed)
    (hvalues : ∀ key ∈ registry.keys, registry.Enclosed (registry.rendered key))
    (hresult : registry.substitute text = .ok result) :
    ∀ key ∈ registry.keys, ¬ (registry.placeholder key).toList <:+: result.toList := by
  have hmarker := marker_toList_ne_nil hregistry.marker_ne
  rw [substitute_eq_ok hregistry (allRender_of_substitute hresult)] at hresult
  obtain rfl := Except.ok.inj hresult
  intro name hname
  rw [toList_placeholder, String.toList_ofList, filled]
  have hreads := Piece.reads_scan hmarker registry.keys text.toList
  apply hreads.not_infix_filled hmarker hname
  · intro key hkey
    rw [← toList_placeholder]
    exact (hvalues key hkey).free name hname
  · intro key hkey
    obtain ⟨c, hhead, hseparator⟩ := (hvalues key hkey).begins
    rw [← toList_placeholder]
    exact ⟨c, hhead, hseparator name hname⟩
  · intro key hkey
    obtain ⟨c, hlast, hseparator⟩ := (hvalues key hkey).ends
    rw [← toList_placeholder]
    exact ⟨c, hlast, hseparator name hname⟩

/-- Without the value, what is left in front of it and behind it would be a placeholder. -/
theorem substitute_echo_free :
    echo.WellFormed ∧ (∀ key ∈ echo.keys, echo.Enclosed (echo.rendered key)) ∧
      echo.substitute "__x__a__a__" = .ok "__x<__x>a__" ∧
      ¬ (echo.placeholder "xa").toList <:+: "__x<__x>a__".toList := by
  have hregistry := assigns_echo.wellFormed
  have hvalues : ∀ key ∈ echo.keys, echo.Enclosed (echo.rendered key) := by
    intro key hkey
    simp only [echo, keys_constants, List.mem_cons, List.not_mem_nil, or_false] at hkey
    rcases hkey with rfl | rfl
    · exact ⟨by decide +kernel, ⟨'<', rfl, by decide +kernel⟩, ⟨'>', rfl, by decide +kernel⟩⟩
    · exact ⟨by decide +kernel, ⟨'(', rfl, by decide +kernel⟩, ⟨')', rfl, by decide +kernel⟩⟩
  have hresult : echo.substitute "__x__a__a__" = .ok "__x<__x>a__" := by
    rw [substitute_eq_ok hregistry assigns_echo.allRender]
    decide +kernel
  have hfree :=
    substitute_placeholder_free echo "__x__a__a__" "__x<__x>a__" hregistry hvalues hresult
  exact ⟨hregistry, hvalues, hresult, hfree "xa" (by decide)⟩

end Stencil.Registry
