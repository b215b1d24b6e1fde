import S2sStack.Js.Headers

set_option autoImplicit false

/- Lists of words in one text, and texts that are split at their first separator. -/
namespace S2s.Js

/-- A word: text without white space, and some of it. -/
structure Word (text : String) : Prop where
  filled : text ≠ ""
  solid : ∀ c ∈ text.toList, isSpace c = false

theorem Word.of_visible {text : String} (filled : text ≠ "")
    (visible : text.toList.all (fun c => !isSpace c) = true) : Word text where
  filled := filled
  solid := by simpa [List.all_eq_true] using visible

theorem Word.begins {text : String} (word : Word text) : ∃ c rest, text.toList = c :: rest := by
  cases spelled : text.toList with
  | nil => exact absurd (String.toList_eq_nil_iff.mp spelled) word.filled
  | cons c rest => exact ⟨c, rest, rfl⟩

/-- A word behind a scheme is sent as it is. -/
theorem Word.kept_behind {text : String} (word : Word text) (scheme : String) {first : Char}
    {rest : List Char} (begins : scheme.toList = first :: rest) (visible : isHttpSpace first = false) :
    normalizeHeader (scheme ++ text) = scheme ++ text := by
  have filled : text.toList ≠ [] := fun empty => word.filled (String.toList_eq_nil_iff.mp empty)
  have front : (scheme ++ text).toList = first :: (rest ++ text.toList) := by
    rw [String.toList_append, begins, List.cons_append]
  have back : (scheme ++ text).toList =
      (scheme.toList ++ text.toList.dropLast) ++ [text.toList.getLast filled] := by
    rw [String.toList_append, List.append_assoc, List.dropLast_append_getLast]
  have last := not_httpSpace (word.solid _ (List.getLast_mem filled))
  exact normalizeHeader_of_ends front back visible last

/-- A word is sent as it is. -/
theorem Word.kept {text : String} (word : Word text) : normalizeHeader text = text := by
  obtain ⟨first, rest, begins⟩ := word.begins
  have filled : text.toList ≠ [] := by simp [begins]
  have ends := (List.dropLast_append_getLast filled).symm
  have visible (c : Char) (member : c ∈ text.toList) : isHttpSpace c = false :=
    not_httpSpace (word.solid c member)
  exact normalizeHeader_of_ends begins ends (visible first (by simp [begins]))
    (visible _ (List.getLast_mem filled))

theorem afterWord_append (word rest : List Char) : afterWord word (word ++ rest) = some rest := by
  induction word with
  | nil => rfl
  | cons c word ih =>
      rw [List.cons_append, afterWord, if_pos rfl]
      exact ih

/-- Solid characters stay together with the word behind them. -/
theorem splitSpaceChars_solid {chars : List Char} (solid : ∀ c ∈ chars, isSpace c = false)
    {rest : List Char} {word : List Char} {words : List (List Char)}
    (later : splitSpaceChars false rest = word :: words) :
    splitSpaceChars false (chars ++ rest) = (chars ++ word) :: words := by
  induction chars with
  | nil => exact later
  | cons c chars ih =>
      have visible : ¬ isSpace c = true := by simp [solid c List.mem_cons_self]
      have inner := ih fun d member => solid d (List.mem_cons_of_mem _ member)
      rw [List.cons_append, splitSpaceChars, if_neg visible, inner]
      rfl

/-- In front of a solid character an open separator makes no difference. -/
theorem splitSpaceChars_open {c : Char} {rest : List Char} (visible : isSpace c = false) :
    splitSpaceChars true (c :: rest) = splitSpaceChars false (c :: rest) := by
  have solid : ¬ isSpace c = true := by simp [visible]
  rw [splitSpaceChars, splitSpaceChars, if_neg solid, if_neg solid]

/-- Words that were joined with blanks are found again. -/
theorem splitSpace_intercalate {words : List String} (some_word : words ≠ [])
    (solid : ∀ text ∈ words, Word text) : splitSpace (" ".intercalate words) = words := by
  induction words with
  | nil => exact absurd rfl some_word
  | cons first rest ih =>
      have own : Word first := solid first List.mem_cons_self
      cases rest with
      | nil =>
          have alone : splitSpaceChars false (first.toList ++ []) = [first.toList ++ []] :=
            splitSpaceChars_solid own.solid rfl
          rw [List.append_nil] at alone
          rw [String.intercalate_singleton, splitSpace, alone, List.map_singleton,
            String.ofList_toList]
      | cons second rest =>
          have later := ih (List.cons_ne_nil _ _)
            fun text member => solid text (List.mem_cons_of_mem _ member)
          have next : Word second := solid second (List.mem_cons_of_mem _ List.mem_cons_self)
          have begins : ∃ c chars, (" ".intercalate (second :: rest)).toList = c :: chars ∧
              isSpace c = false := by
            obtain ⟨c, chars, spelled⟩ := next.begins
            have visible := next.solid c (by simp [spelled])
            cases rest with
            | nil => exact ⟨c, chars, by rw [String.intercalate_singleton, spelled], visible⟩
            | cons third rest =>
                refine ⟨c, chars ++ (' ' :: (" ".intercalate (third :: rest)).toList), ?_, visible⟩
                rw [String.intercalate_cons_cons, String.toList_append, String.toList_append, spelled]
                simp
          obtain ⟨c, chars, spelled, visible⟩ := begins
          have blank : isSpace ' ' = true := by decide
          have separated : splitSpaceChars false (' ' :: (" ".intercalate (second :: rest)).toList) =
              [] :: splitSpaceChars false (" ".intercalate (second :: rest)).toList := by
            rw [splitSpaceChars, if_pos blank, spelled, splitSpaceChars_open visible]
            rfl
          have whole := splitSpaceChars_solid own.solid separated
          have text : (" ".intercalate (first :: second :: rest)).toList =
              first.toList ++ ' ' :: (" ".intercalate (second :: rest)).toList := by
            rw [String.intercalate_cons_cons, String.toList_append, String.toList_append]
            simp
          rw [splitSpace, text, whole, List.append_nil, List.map_cons, String.ofList_toList]
          exact congrArg _ later

theorem splitFirstChars_append {separator : Char} {before after : List Char}
    (absent : separator ∉ before) :
    splitFirstChars separator (before ++ separator :: after) = some (before, after) := by
  induction before with
  | nil => exact if_pos rfl
  | cons c before ih =>
      have other : ¬ c = separator := by
        rintro rfl
        exact absent List.mem_cons_self
      have inner := ih fun member => absent (List.mem_cons_of_mem _ member)
      rw [List.cons_append, splitFirstChars, if_neg other, inner]
      rfl

theorem splitFirstChars_absent {separator : Char} {text before after : List Char}
    (found : splitFirstChars separator text = some (before, after)) : separator ∉ before := by
  induction text generalizing before with
  | nil => cases found
  | cons c rest ih =>
      rw [splitFirstChars] at found
      by_cases same : c = separator
      · rw [if_pos same] at found
        cases found
        exact List.not_mem_nil
      · rw [if_neg same, Option.map_eq_some_iff] at found
        obtain ⟨parts, inner, split⟩ := found
        cases split
        intro member
        obtain head | tail := List.mem_cons.mp member
        · exact same head.symm
        · exact ih inner tail

/-- The text in front of a separator comes back exactly where it has no separator itself. -/
theorem splitFirst_eq_iff {before after : String} :
    splitFirst ':' (before ++ ":" ++ after) = some (before, after) ↔ ':' ∉ before.toList := by
  have text : (before ++ ":" ++ after).toList = before.toList ++ ':' :: after.toList := by
    simp [String.toList_append]
  rw [splitFirst, text]
  constructor
  · intro found
    rw [Option.map_eq_some_iff] at found
    obtain ⟨parts, split, same⟩ := found
    have absent := splitFirstChars_absent split
    have front : String.ofList parts.1 = before := congrArg Prod.fst same
    rwa [← front, String.toList_ofList]
  · intro absent
    rw [splitFirstChars_append absent, Option.map_some, String.ofList_toList, String.ofList_toList]

/-- A word without a colon is what stands in front of the first two. -/
theorem splitFirstColons_append {word rest : List Char} (plain : ':' ∉ word) :
    splitFirstColons (word ++ ':' :: ':' :: rest) = some (word, rest) := by
  induction word with
  | nil => simp [splitFirstColons]
  | cons c word ih =>
      have behind := ih fun member => plain (List.mem_cons_of_mem c member)
      have first : ¬ (c = ':') := fun same => plain (same ▸ List.mem_cons_self)
      cases word with
      | nil => simp [splitFirstColons, first]
      | cons d word =>
          rw [List.cons_append] at behind
          rw [List.cons_append, List.cons_append, splitFirstColons, if_neg (mt And.left first),
            behind, Option.map_some]

theorem splitChars_absent {separator : Char} {word : List Char} (absent : separator ∉ word) :
    splitChars separator word = [word] := by
  induction word with
  | nil => rfl
  | cons c word ih =>
      have other : ¬ c = separator := fun same => absent (same ▸ List.mem_cons_self)
      have inner := ih fun member => absent (List.mem_cons_of_mem _ member)
      rw [splitChars, if_neg other, inner]

theorem splitChars_append {separator : Char} {word rest : List Char} (absent : separator ∉ word) :
    splitChars separator (word ++ separator :: rest) = word :: splitChars separator rest := by
  induction word with
  | nil => exact if_pos rfl
  | cons c word ih =>
      have other : ¬ c = separator := fun same => absent (same ▸ List.mem_cons_self)
      have inner := ih fun member => absent (List.mem_cons_of_mem _ member)
      rw [List.cons_append, splitChars, if_neg other, inner]

/-- Texts without a blank that were joined with blanks are found again. -/
theorem split_intercalate {texts : List String} (some_text : texts ≠ [])
    (absent : ∀ text ∈ texts, ' ' ∉ text.toList) : split ' ' (" ".intercalate texts) = texts := by
  induction texts with
  | nil => exact absurd rfl some_text
  | cons first rest ih =>
      have own := absent first List.mem_cons_self
      cases rest with
      | nil =>
          rw [String.intercalate_singleton, split, splitChars_absent own, List.map_singleton,
            String.ofList_toList]
      | cons second rest =>
          have later := ih (List.cons_ne_nil _ _)
            fun text member => absent text (List.mem_cons_of_mem _ member)
          have text : (" ".intercalate (first :: second :: rest)).toList =
              first.toList ++ ' ' :: (" ".intercalate (second :: rest)).toList := by
            rw [String.intercalate_cons_cons, String.toList_append, String.toList_append]
            simp
          rw [split, text, splitChars_append own, List.map_cons, String.ofList_toList]
          exact congrArg _ later

theorem splitSpaceChars_visible (afterSpace : Bool) (chars : List Char) :
    ∀ word ∈ splitSpaceChars afterSpace chars, ∀ c ∈ word, isSpace c = false := by
  induction chars generalizing afterSpace with
  | nil => simp [splitSpaceChars]
  | cons c rest ih =>
      intro word member
      by_cases blank : isSpace c = true
      · have inner : word = [] ∨ word ∈ splitSpaceChars true rest := by
          rw [splitSpaceChars, if_pos blank] at member
          by_cases opened : afterSpace = true
          · rw [if_pos opened] at member
            exact .inr member
          · rw [if_neg opened] at member
            exact List.mem_cons.mp member
        rcases inner with rfl | inner
        · simp
        · exact ih true word inner
      · have visible : isSpace c = false := by simpa using blank
        rw [splitSpaceChars, if_neg blank] at member
        cases split : splitSpaceChars false rest with
        | nil =>
            rw [split] at member
            cases List.mem_singleton.mp member
            simpa using visible
        | cons first words =>
            have inner := ih false
            rw [split] at member inner
            rcases List.mem_cons.mp member with rfl | later
            · intro d char
              rcases List.mem_cons.mp char with rfl | behind
              · exact visible
              · exact inner first List.mem_cons_self d behind
            · exact inner word (List.mem_cons_of_mem _ later)

/-- The parts of a text between white space have none themselves. -/
theorem splitSpace_visible {text part : String} (member : part ∈ splitSpace text) :
    ∀ c ∈ part.toList, isSpace c = false := by
  obtain ⟨word, inside, rfl⟩ := List.mem_map.mp member
  rw [String.toList_ofList]
  exact splitSpaceChars_visible false _ word inside

end S2s.Js
