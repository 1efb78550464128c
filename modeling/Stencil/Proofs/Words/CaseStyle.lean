import Mathlib.Data.List.Chain
import Stencil.Proofs.Words.Split

/-!
The case styles of ASCII texts. All of them write the same words, which are ASCII letters and digits
there, and a word written in one case is the same one word when the text is split again. So the
styles with separators differ in the separator and the case only, and from each of them the words in
small letters come back.
-/

namespace Stencil.Words

variable {c separator : Char} {text word rest : List Char} {parts : List (List Char)}
  {f : Char → Char}

/-! Small letters and digits with low lines between them. -/

/-- A word of small ASCII letters and digits. -/
structure Small (word : List Char) : Prop where
  nonempty : word ≠ []
  chars : ∀ c ∈ word, c.isLower = true ∨ c.isDigit = true

/-- Words of small ASCII letters and digits with one low line between any two of them, as far as it
can be seen from the characters. -/
structure Snake (text : List Char) : Prop where
  chars : ∀ c ∈ text, c.isLower = true ∨ c.isDigit = true ∨ c = '_'
  begins : text.head? ≠ some '_'
  ends : text.getLast? ≠ some '_'
  single : text.IsChain fun c next => c ≠ '_' ∨ next ≠ '_'

theorem Small.ne_low_line (h : Small word) (hc : c ∈ word) : c ≠ '_' := by
  have hchar := h.chars c hc
  rintro rfl
  revert hchar
  decide

theorem Small.snake (h : Small word) : Snake word where
  chars c hc := (h.chars c hc).imp_right Or.inl
  begins hmem := h.ne_low_line (List.mem_of_mem_head? hmem) rfl
  ends hmem := h.ne_low_line (List.mem_of_mem_getLast? hmem) rfl
  single := by
    apply List.Pairwise.isChain
    apply List.pairwise_of_forall_mem_list
    intro c hc next _
    exact Or.inl (h.ne_low_line hc)

theorem Small.snake_append (hword : Small word) (hne : rest ≠ []) (hrest : Snake rest) :
    Snake (word ++ '_' :: rest) where
  chars := by
    rw [List.forall_mem_append, List.forall_mem_cons]
    exact ⟨hword.snake.chars, Or.inr (Or.inr rfl), hrest.chars⟩
  begins := by
    rw [List.head?_append_of_ne_nil _ hword.nonempty]
    exact hword.snake.begins
  ends := by
    have hends := hrest.ends
    rw [List.getLast?_eq_some_getLast hne] at hends
    rwa [List.getLast?_append, List.getLast?_cons, List.getLast?_eq_some_getLast hne]
  single := by
    rw [List.isChain_append, List.isChain_cons]
    refine ⟨hword.snake.single, ⟨?_, hrest.single⟩, ?_⟩
    · intro next hnext
      right
      rintro rfl
      exact hrest.begins hnext
    · intro c hc next _
      exact Or.inl (hword.ne_low_line (List.mem_of_mem_getLast? hc))

theorem snake_join (h : ∀ word ∈ parts, Small word) : Snake (join '_' parts) := by
  induction parts with
  | nil => exact ⟨by simp [join], by simp [join], by simp [join], by simp [join]⟩
  | cons word more ih =>
      obtain ⟨hword, hmore⟩ := List.forall_mem_cons.mp h
      cases more with
      | nil =>
          rw [join, List.intercalate_singleton]
          exact hword.snake
      | cons next last =>
          have hne : join '_' (next :: last) ≠ [] := by
            rw [join, Text.intercalate_singleton_cons]
            exact List.append_ne_nil_of_left_ne_nil (hmore next List.mem_cons_self).nonempty _
          have hjoin :
              join '_' (word :: next :: last) = word ++ '_' :: join '_' (next :: last) := by
            rw [join, List.intercalate_cons_cons, List.append_assoc, List.singleton_append, join]
          rw [hjoin]
          exact hword.snake_append hne (ih hmore)

/-! ASCII words, and what a change of case makes of them. -/

/-- A word of ASCII letters and digits. -/
structure Plain (word : List Char) : Prop where
  nonempty : word ≠ []
  letters : ∀ c ∈ word, c.isAlphanum = true

theorem plain_of_mem_words (hascii : ∀ c ∈ text, c.toNat < 0x80) (hword : word ∈ words text) :
    Plain word where
  nonempty := by
    rintro rfl
    exact nil_not_mem_words text hword
  letters c hc := by
    obtain ⟨hmem, halphanumeric⟩ := mem_of_mem_words hword hc
    rwa [Text.isAlphanumeric, if_pos (hascii c hmem)] at halphanumeric

theorem Plain.ascii (h : Plain word) (hc : c ∈ word) : c.toNat < 0x80 :=
  Text.toNat_lt_of_isAlphanum (h.letters c hc)

theorem Plain.isAlphanumeric (h : Plain word) (hc : c ∈ word) : Text.isAlphanumeric c = true := by
  rw [Text.isAlphanumeric, if_pos (h.ascii hc)]
  exact h.letters c hc

/-- In a word of ASCII characters there is no final form. -/
theorem lowerWord_of_ascii (h : ∀ c ∈ word, c.toNat < 0x80) :
    lowerWord word = word.map Char.toLower := by
  fun_induction lowerWord word with
  | case1 => rfl
  | case2 =>
      have hsigma := h '\u03A3' List.mem_cons_self
      revert hsigma
      decide
  | case3 c rest hsigma ih =>
      obtain ⟨hc, hrest⟩ := List.forall_mem_cons.mp h
      rw [Text.lower_of_ascii hc, ih hrest, List.singleton_append, List.map_cons]

theorem Plain.lowerWord_eq (h : Plain word) : lowerWord word = word.map Char.toLower :=
  lowerWord_of_ascii fun _ hc => h.ascii hc

theorem map_lowerWord_words {text : List Char} (hascii : ∀ c ∈ text, c.toNat < 0x80) :
    (words text).map lowerWord = (words text).map (List.map Char.toLower) :=
  List.map_congr_left fun _ hword => (plain_of_mem_words hascii hword).lowerWord_eq

theorem Plain.uppercase_eq (h : Plain word) : Text.uppercase word = word.map Char.toUpper :=
  Text.uppercase_of_ascii fun _ hc => h.ascii hc

/-- A change of letters to one case. Letters and digits stay what they are, small letters can be had
as before, and either all capitals are gone or all small letters. -/
structure OneCase (f : Char → Char) : Prop where
  alphanum : ∀ {c}, c.isAlphanum = true → (f c).isAlphanum = true
  lowered : ∀ {c}, c.isAlphanum = true → (f c).toLower = c.toLower
  uniform : (∀ {c}, c.isAlphanum = true → Text.isUpper (f c) = false) ∨
    ∀ {c}, c.isAlphanum = true → Text.isLower (f c) = false

theorem oneCase_toLower : OneCase Char.toLower where
  alphanum := Text.forall_isAlphanum (p := fun c => c.toLower.isAlphanum = true) (by decide)
  lowered := Text.forall_isAlphanum (p := fun c => c.toLower.toLower = c.toLower) (by decide)
  uniform := Or.inl
    (Text.forall_isAlphanum (p := fun c => Text.isUpper c.toLower = false) (by decide))

theorem oneCase_toUpper : OneCase Char.toUpper where
  alphanum := Text.forall_isAlphanum (p := fun c => c.toUpper.isAlphanum = true) (by decide)
  lowered := Text.forall_isAlphanum (p := fun c => c.toUpper.toLower = c.toLower) (by decide)
  uniform := Or.inr
    (Text.forall_isAlphanum (p := fun c => Text.isLower c.toUpper = false) (by decide))

theorem toUpper_toLower (h : c.isAlphanum = true) : c.toLower.toUpper = c.toUpper :=
  Text.forall_isAlphanum (p := fun c => c.toLower.toUpper = c.toUpper) (by decide) h

theorem small_toLower (h : c.isAlphanum = true) :
    c.toLower.isLower = true ∨ c.toLower.isDigit = true :=
  Text.forall_isAlphanum (p := fun c => c.toLower.isLower = true ∨ c.toLower.isDigit = true)
    (by decide) h

theorem Plain.small (h : Plain word) : Small (word.map Char.toLower) where
  nonempty := by simpa using h.nonempty
  chars := by
    rw [List.forall_mem_map]
    intro c hc
    exact small_toLower (h.letters c hc)

theorem OneCase.plain (hf : OneCase f) (h : Plain word) : Plain (word.map f) where
  nonempty := by simpa using h.nonempty
  letters := by
    rw [List.forall_mem_map]
    intro c hc
    exact hf.alphanum (h.letters c hc)

theorem OneCase.cut_map (hf : OneCase f) (h : Plain word) :
    cut .boundary (word.map f) = [word.map f] := by
  have hne := (hf.plain h).nonempty
  rcases hf.uniform with hupper | hlower
  · apply cut_of_no_upper hne
    rw [List.forall_mem_map]
    intro c hc
    exact hupper (h.letters c hc)
  · apply cut_of_no_lower hne _ (by decide)
    rw [List.forall_mem_map]
    intro c hc
    exact hlower (h.letters c hc)

theorem OneCase.lowerWord_map (hf : OneCase f) (h : Plain word) :
    lowerWord (word.map f) = word.map Char.toLower := by
  rw [(hf.plain h).lowerWord_eq, List.map_map]
  apply List.map_congr_left
  intro c hc
  exact hf.lowered (h.letters c hc)

/-- Words with their letters changed, put together with a separator. -/
def styled (f : Char → Char) (separator : Char) (parts : List (List Char)) : List Char :=
  join separator (parts.map (List.map f))

/-- Words in one case are the words of the text that they are put together in. -/
theorem OneCase.words_styled (hf : OneCase f) (hseparator : Text.isAlphanumeric separator = false)
    (h : ∀ word ∈ parts, Plain word) :
    words (styled f separator parts) = parts.map (List.map f) := by
  rw [styled, words_join hseparator, List.flatMap_map, List.map_eq_flatMap]
  · exact List.flatMap_congr fun word hword => hf.cut_map (h word hword)
  · rw [List.forall_mem_map]
    intro word hword c hc
    exact (hf.plain (h word hword)).isAlphanumeric hc

theorem snake_styled (h : ∀ word ∈ parts, Plain word) :
    Snake (styled Char.toLower '_' parts) := by
  apply snake_join
  rw [List.forall_mem_map]
  intro word hword
  exact (h word hword).small

/-- Changing a styled text character by character changes the separator and the words. -/
theorem map_styled {g final : Char → Char} (h : ∀ word ∈ parts, Plain word)
    (hg : ∀ c, c.isAlphanum = true → g (f c) = final c) :
    (styled f separator parts).map g = styled final (g separator) parts := by
  have hwords : parts.map (List.map g ∘ List.map f) = parts.map (List.map final) := by
    apply List.map_congr_left
    intro word hword
    rw [Function.comp_apply, List.map_map]
    apply List.map_congr_left
    intro c hc
    exact hg c ((h word hword).letters c hc)
  rw [styled, join, Text.map_intercalate_singleton, List.map_map, hwords, styled, join]

/-- Without the separators the characters of the words are left. -/
theorem filter_styled (h : ∀ word ∈ parts, Plain word) :
    (styled Char.toLower '_' parts).filter (· ≠ '_') = parts.flatten.map Char.toLower := by
  rw [styled, join, Text.filter_intercalate_singleton (by decide), List.map_flatten]
  rw [List.forall_mem_map]
  intro word hword c hc
  simpa using (h word hword).small.ne_low_line hc

theorem flatten_words_of_ascii (hascii : ∀ c ∈ text, c.toNat < 0x80) :
    (words text).flatten = text.filter Char.isAlphanum := by
  rw [flatten_words]
  apply List.filter_congr
  intro c hc
  exact if_pos (hascii c hc)

end Stencil.Words

namespace Stencil.Transform

open Words

variable {value : Value} {f : Char → Char} {separator : Char} {parts : List (List Char)}

theorem snakeCase_eq (hascii : ∀ c ∈ value.text.toList, c.toNat < 0x80) :
    snakeCase.apply value =
      String.ofList (styled Char.toLower '_' (words value.text.toList)) := by
  rw [apply, map_lowerWord_words hascii, styled]

theorem kebabCase_eq (hascii : ∀ c ∈ value.text.toList, c.toNat < 0x80) :
    kebabCase.apply value =
      String.ofList (styled Char.toLower '-' (words value.text.toList)) := by
  rw [apply, map_lowerWord_words hascii, styled]

theorem screamingSnakeCase_eq (hascii : ∀ c ∈ value.text.toList, c.toNat < 0x80) :
    screamingSnakeCase.apply value =
      String.ofList (styled Char.toUpper '_' (words value.text.toList)) := by
  have hupper : (words value.text.toList).map Text.uppercase =
      (words value.text.toList).map (List.map Char.toUpper) :=
    List.map_congr_left fun _ hword => (plain_of_mem_words hascii hword).uppercase_eq
  rw [apply, hupper, styled]

/-- The words in small letters come back from every style in one case. -/
theorem snakeCase_styled (hf : OneCase f) (hseparator : Text.isAlphanumeric separator = false)
    (h : ∀ word ∈ parts, Plain word) :
    snakeCase.apply (.string (String.ofList (styled f separator parts))) =
      String.ofList (styled Char.toLower '_' parts) := by
  have hlower : (parts.map (List.map f)).map lowerWord = parts.map (List.map Char.toLower) := by
    rw [List.map_map]
    exact List.map_congr_left fun word hword => hf.lowerWord_map (h word hword)
  rw [apply, Value.text, String.toList_ofList, hf.words_styled hseparator h, hlower, styled]

theorem upperCase_styled (h : ∀ word ∈ parts, Plain word) :
    upperCase.apply (.string (String.ofList (styled Char.toLower '_' parts))) =
      String.ofList (styled Char.toUpper '_' parts) := by
  have hascii : ∀ c ∈ styled Char.toLower '_' parts, c.toNat < 0x80 := by
    intro c hc
    have halphanum : c.isAlphanum = (c.isUpper || c.isLower || c.isDigit) := rfl
    rcases (snake_styled h).chars c hc with hlower | hdigit | rfl
    · exact Text.toNat_lt_of_isAlphanum (by simp [halphanum, hlower])
    · exact Text.toNat_lt_of_isAlphanum (by simp [halphanum, hdigit])
    · decide
  have hupper : '_'.toUpper = '_' := by decide
  rw [apply, Value.text, String.toList_ofList, Text.uppercase_of_ascii hascii,
    map_styled h fun _ => toUpper_toLower, hupper]

theorem map_hyphen_styled (h : ∀ word ∈ parts, Plain word) :
    (styled Char.toLower '_' parts).map (fun c => if c = '_' then '-' else c) =
      styled Char.toLower '-' parts := by
  apply map_styled h
  intro c hc
  have hne : c.toLower ≠ '_' :=
    Text.forall_isAlphanum (p := fun c => c.toLower ≠ '_') (by decide) hc
  exact if_neg hne

/-- The case styles of a value whose text is ASCII agree on its words. Snake case is made of small
letters, digits and single low lines between them, and its letters and digits are those of the
text. Kebab case has hyphens in place of the low lines, and screaming snake case is the same in
upper case. From each of the three the words come back, so snake case of it is snake case again. -/
theorem case_styles_agree (value : Value) (hascii : ∀ c ∈ value.text.toList, c.toNat < 0x80) :
    let snake := snakeCase.apply value
    Snake snake.toList ∧
      snake.toList.filter (· ≠ '_') =
        (value.text.toList.filter Char.isAlphanum).map Char.toLower ∧
      kebabCase.apply value = snake.map (fun c => if c = '_' then '-' else c) ∧
      screamingSnakeCase.apply value = upperCase.apply (.string snake) ∧
      ∀ style ∈ [snakeCase, kebabCase, screamingSnakeCase],
        snakeCase.apply (.string (style.apply value)) = snake := by
  intro snake
  have hsnake : snake = String.ofList (styled Char.toLower '_' (words value.text.toList)) :=
    snakeCase_eq hascii
  have hplain : ∀ word ∈ words value.text.toList, Plain word :=
    fun _ hword => plain_of_mem_words hascii hword
  refine ⟨?_, ?_, ?_, ?_, ?_⟩
  · rw [hsnake, String.toList_ofList]
    exact snake_styled hplain
  · rw [hsnake, String.toList_ofList, filter_styled hplain, flatten_words_of_ascii hascii]
  · rw [← String.toList_inj, String.toList_map, hsnake, kebabCase_eq hascii, String.toList_ofList,
      String.toList_ofList, map_hyphen_styled hplain]
  · rw [screamingSnakeCase_eq hascii, hsnake, upperCase_styled hplain]
  · simp only [List.forall_mem_cons]
    refine ⟨?_, ?_, ?_, by simp⟩
    · rw [snakeCase_eq hascii, snakeCase_styled oneCase_toLower (by decide) hplain, hsnake]
    · rw [kebabCase_eq hascii, snakeCase_styled oneCase_toLower (by decide) hplain, hsnake]
    · rw [screamingSnakeCase_eq hascii, snakeCase_styled oneCase_toUpper (by decide) hplain, hsnake]

/-- The text of a list is its JSON text. A digit goes on with the word before it, and of several
capitals the last one begins a word when a small letter follows. -/
theorem case_styles_response :
    let value : Value := .array [.string "parseHTTPResponse2Go__v1", .null]
    (∀ c ∈ value.text.toList, c.toNat < 0x80) ∧
      snakeCase.apply value = "parse_http_response2_go_v1_null" ∧
      kebabCase.apply value = "parse-http-response2-go-v1-null" ∧
      screamingSnakeCase.apply value = "PARSE_HTTP_RESPONSE2_GO_V1_NULL" ∧
      snakeCase.apply (.string "PARSE_HTTP_RESPONSE2_GO_V1_NULL") =
        "parse_http_response2_go_v1_null" := by
  intro value
  have hall : value.text.toList.all (fun c => c.toNat < 0x80) = true := by decide +kernel
  have hascii : ∀ c ∈ value.text.toList, c.toNat < 0x80 :=
    fun c hc => of_decide_eq_true (List.all_eq_true.mp hall c hc)
  have hsnake : snakeCase.apply value = "parse_http_response2_go_v1_null" := by decide +kernel
  obtain ⟨-, -, hkebab, hscreaming, hagain⟩ := case_styles_agree value hascii
  have hupper : screamingSnakeCase.apply value = "PARSE_HTTP_RESPONSE2_GO_V1_NULL" := by
    rw [hscreaming, hsnake]
    decide +kernel
  have hhyphens : kebabCase.apply value = "parse-http-response2-go-v1-null" := by
    rw [hkebab, hsnake]
    decide +kernel
  have hback := hagain screamingSnakeCase (by decide)
  rw [hupper, hsnake] at hback
  exact ⟨hascii, hsnake, hhyphens, hupper, hback⟩

end Stencil.Transform
