import S2sStack.Js.Words
import Mathlib.Data.List.DropRight
import Mathlib.Data.List.TakeWhile

set_option autoImplicit false

/- What the words and pieces of a text are, apart from the functions that find them. -/
namespace S2s.Js

/-- The pieces of a text between single blanks; the empty text has none. -/
structure Pieces (text : String) (pieces : List String) : Prop where
  solid : ∀ piece ∈ pieces, ' ' ∉ piece.toList
  joined : " ".intercalate pieces = text
  none : text = "" → pieces = []

theorem not_mem_of_mem_splitChars {separator : Char} {chars word : List Char}
    (member : word ∈ splitChars separator chars) : separator ∉ word := by
  induction chars generalizing word with
  | nil =>
      cases List.mem_singleton.mp member
      exact List.not_mem_nil
  | cons c rest ih =>
      by_cases same : c = separator
      · rw [splitChars, if_pos same] at member
        rcases List.mem_cons.mp member with rfl | later
        · exact List.not_mem_nil
        · exact ih later
      · rw [splitChars, if_neg same] at member
        cases split : splitChars separator rest with
        | nil =>
            rw [split] at member
            cases List.mem_singleton.mp member
            exact fun inside => same (List.mem_singleton.mp inside).symm
        | cons first words =>
            rw [split] at member ih
            rcases List.mem_cons.mp member with rfl | later
            · intro inside
              rcases List.mem_cons.mp inside with head | tail
              · exact same head.symm
              · exact ih List.mem_cons_self tail
            · exact ih (List.mem_cons_of_mem _ later)

theorem splitChars_ne_nil (separator : Char) (chars : List Char) : splitChars separator chars ≠ [] := by
  cases chars with
  | nil => exact List.cons_ne_nil _ _
  | cons c rest =>
      by_cases same : c = separator
      · rw [splitChars, if_pos same]
        exact List.cons_ne_nil _ _
      · rw [splitChars, if_neg same]
        split
        · exact List.cons_ne_nil _ _
        · exact List.cons_ne_nil _ _

/-- What was split at the blanks is joined again by them. -/
theorem intercalate_split (text : String) : " ".intercalate (split ' ' text) = text := by
  have joined (chars : List Char) :
      (" ".intercalate ((splitChars ' ' chars).map String.ofList)).toList = chars := by
    induction chars with
    | nil => rfl
    | cons c rest ih =>
        obtain ⟨first, words, split⟩ := List.exists_cons_of_ne_nil (splitChars_ne_nil ' ' rest)
        rw [split, List.map_cons] at ih
        by_cases blank : c = ' '
        · rw [splitChars, if_pos blank, split, List.map_cons, List.map_cons,
            String.intercalate_cons_cons, String.toList_append, String.toList_append, ih, blank]
          rfl
        · rw [splitChars, if_neg blank, split, List.map_cons]
          have longer : String.ofList (c :: first) = String.ofList [c] ++ String.ofList first := by
            rw [← String.ofList_append]
            rfl
          cases words with
          | nil =>
              rw [List.map_nil, String.intercalate_singleton, String.toList_ofList] at ih
              rw [List.map_nil, String.intercalate_singleton, String.toList_ofList, ih]
          | cons second words =>
              rw [List.map_cons, String.intercalate_cons_cons] at ih
              rw [List.map_cons, String.intercalate_cons_cons, longer, String.append_assoc,
                String.append_assoc, String.toList_append, ← String.append_assoc, ih,
                String.toList_ofList]
              rfl
  have same := joined text.toList
  rw [← String.toList_inj]
  exact same

/-- The pieces of a text are unique: what `split(' ')` makes of it. -/
theorem pieces_iff {text : String} {pieces : List String} :
    Pieces text pieces ↔ pieces = if text = "" then [] else split ' ' text := by
  constructor
  · intro cut
    by_cases empty : text = ""
    · rw [if_pos empty]
      exact cut.none empty
    · have some_piece : pieces ≠ [] := by
        rintro rfl
        exact empty cut.joined.symm
      rw [if_neg empty, ← cut.joined]
      exact (split_intercalate some_piece cut.solid).symm
  · rintro rfl
    by_cases empty : text = ""
    · rw [if_pos empty]
      exact ⟨fun _ member => absurd member List.not_mem_nil, empty.symm, fun _ => rfl⟩
    · rw [if_neg empty]
      refine ⟨?_, intercalate_split text, fun impossible => absurd impossible empty⟩
      intro piece member
      obtain ⟨word, inside, rfl⟩ := List.mem_map.mp member
      rw [String.toList_ofList]
      exact not_mem_of_mem_splitChars inside

/-- The words of a text, in their order, with white space between and around them. -/
inductive Spaced : List Char → List String → Prop
  | blank {blanks : List Char} : (∀ c ∈ blanks, isSpace c = true) → Spaced blanks []
  | word {blanks rest : List Char} {text : String} {words : List String} :
      (∀ c ∈ blanks, isSpace c = true) → Word text → (∀ c ∈ rest.head?, isSpace c = true) →
      Spaced rest words → Spaced (blanks ++ text.toList ++ rest) (text :: words)

namespace Spaced

theorem blanks_append {blanks chars : List Char} {words : List String}
    (white : ∀ c ∈ blanks, isSpace c = true) (spaced : Spaced chars words) :
    Spaced (blanks ++ chars) words := by
  cases spaced with
  | blank more =>
      apply blank
      intro c member
      rcases List.mem_append.mp member with front | back
      · exact white c front
      · exact more c back
  | word more own apart later =>
      rw [← List.append_assoc, ← List.append_assoc]
      refine word ?_ own apart later
      intro c member
      rcases List.mem_append.mp member with front | back
      · exact white c front
      · exact more c back

/-- More text behind the last word, where white space separates it. -/
theorem append {chars after : List Char} {words more : List String} (spaced : Spaced chars words)
    (apart : ∀ c ∈ after.head?, isSpace c = true) (later : Spaced after more) :
    Spaced (chars ++ after) (words ++ more) := by
  induction spaced with
  | blank white => exact blanks_append white later
  | @word blanks rest text words white own gap _ ih =>
      rw [List.append_assoc, List.cons_append]
      refine word white own ?_ ih
      cases rest with
      | nil => exact apart
      | cons c rest => exact gap

/-- Every text has its words. -/
theorem exists_words (chars : List Char) : ∃ words, Spaced chars words := by
  induction chars with
  | nil => exact ⟨[], blank fun _ member => absurd member List.not_mem_nil⟩
  | cons c rest ih =>
      obtain ⟨words, spaced⟩ := ih
      by_cases white : isSpace c = true
      · have one : ∀ d ∈ [c], isSpace d = true := fun d member => by
          rwa [List.mem_singleton.mp member]
        exact ⟨words, blanks_append one spaced⟩
      · have visible : isSpace c = false := by simpa using white
        have single : Word (String.ofList [c]) :=
          Word.of_visible (by simp [← String.toList_inj]) (by simp [visible])
        have nothing : ∀ d ∈ ([] : List Char), isSpace d = true :=
          fun _ member => absurd member List.not_mem_nil
        have begin_word (gap : ∀ d ∈ rest.head?, isSpace d = true) :
            ∃ words, Spaced (c :: rest) words := by
          have started := word nothing single gap spaced
          rw [String.toList_ofList] at started
          exact ⟨_, started⟩
        cases spaced with
        | blank blanks =>
            exact begin_word fun d first => blanks d (List.mem_of_mem_head? first)
        | @word blanks after text words more own gap later =>
            cases blanks with
            | cons b blanks =>
                refine begin_word fun d first => ?_
                cases first
                exact more b List.mem_cons_self
            | nil =>
                have longer : Word (String.ofList (c :: text.toList)) :=
                  Word.of_visible (by simp [← String.toList_inj]) (by simpa [visible] using own.solid)
                have grown := word nothing longer gap later
                rw [String.toList_ofList] at grown
                exact ⟨_, grown⟩

theorem nil_words {words : List String} (spaced : Spaced [] words) : words = [] := by
  cases words with
  | nil => rfl
  | cons text words =>
      generalize empty : ([] : List Char) = chars at spaced
      cases spaced with
      | word _ own _ _ =>
          obtain ⟨c, rest, begins⟩ := own.begins
          simp [begins] at empty

theorem splitSpaceChars_blanks {blanks : List Char} (white : ∀ c ∈ blanks, isSpace c = true)
    (rest : List Char) : splitSpaceChars true (blanks ++ rest) = splitSpaceChars true rest := by
  induction blanks with
  | nil => rfl
  | cons c blanks ih =>
      rw [List.cons_append, splitSpaceChars, if_pos (white c List.mem_cons_self), if_pos rfl]
      exact ih fun d member => white d (List.mem_cons_of_mem _ member)

/-- Where a text does not end in white space, the words are the parts it is split into. -/
theorem split_eq {chars : List Char} {words : List String} (spaced : Spaced chars words)
    (ends : ∃ c ∈ chars.getLast?, isSpace c = false) :
    splitSpaceChars true chars = words.map String.toList := by
  induction spaced with
  | @blank blanks white =>
      obtain ⟨c, last, visible⟩ := ends
      have impossible := white c (List.mem_of_mem_getLast? last)
      rw [visible] at impossible
      cases impossible
  | @word blanks rest text words white own gap later ih =>
      obtain ⟨c, chars, begins⟩ := own.begins
      have visible : isSpace c = false := own.solid c (by simp [begins])
      have opened : splitSpaceChars true (text.toList ++ rest) =
          splitSpaceChars false (text.toList ++ rest) := by
        rw [begins, List.cons_append]
        exact splitSpaceChars_open visible
      rw [List.append_assoc, splitSpaceChars_blanks white, opened, List.map_cons]
      cases rest with
      | nil =>
          have alone := splitSpaceChars_solid own.solid (show splitSpaceChars false [] = [[]] from rfl)
          rw [later.nil_words, alone, List.append_nil, List.map_nil]
      | cons d rest =>
          have ended : ∃ c ∈ (d :: rest).getLast?, isSpace c = false := by
            rwa [List.getLast?_append_of_ne_nil _ (List.cons_ne_nil d rest)] at ends
          have parted : splitSpaceChars false (d :: rest) =
              [] :: splitSpaceChars true (d :: rest) := by
            have white := gap d rfl
            rw [splitSpaceChars, splitSpaceChars, if_pos white, if_pos white]
            rfl
          rw [ih ended] at parted
          have whole := splitSpaceChars_solid own.solid parted
          rwa [List.append_nil] at whole

/-- Whether a separator is open makes no difference to the parts that are not empty. -/
theorem filled_open (chars : List Char) :
    (splitSpaceChars true chars).filter (· ≠ []) = (splitSpaceChars false chars).filter (· ≠ []) := by
  cases chars with
  | nil => rfl
  | cons c rest =>
      by_cases white : isSpace c = true
      · rw [splitSpaceChars, splitSpaceChars, if_pos white, if_pos white, if_pos rfl]
        rfl
      · rw [splitSpaceChars_open (by simpa using white)]

/-- The words are the parts that are not empty. -/
theorem filled_eq {chars : List Char} {words : List String} (spaced : Spaced chars words) :
    (splitSpaceChars true chars).filter (· ≠ []) = words.map String.toList := by
  induction spaced with
  | @blank blanks white =>
      have skipped := splitSpaceChars_blanks white []
      rw [List.append_nil] at skipped
      rw [skipped]
      rfl
  | @word blanks rest text words white own gap later ih =>
      obtain ⟨c, chars, begins⟩ := own.begins
      have filled : text.toList ≠ [] := begins ▸ List.cons_ne_nil c chars
      rw [List.append_assoc, splitSpaceChars_blanks white, filled_open, List.map_cons]
      cases rest with
      | nil =>
          have alone := splitSpaceChars_solid own.solid (show splitSpaceChars false [] = [[]] from rfl)
          rw [later.nil_words, alone, List.append_nil]
          simp [filled]
      | cons d rest =>
          have parted : splitSpaceChars false (d :: rest) =
              [] :: splitSpaceChars true rest := by
            rw [splitSpaceChars, if_pos (gap d rfl)]
            rfl
          have skipped : splitSpaceChars true (d :: rest) = splitSpaceChars true rest := by
            rw [splitSpaceChars, if_pos (gap d rfl), if_pos rfl]
          rw [splitSpaceChars_solid own.solid parted, List.append_nil,
            List.filter_cons_of_pos (by simpa using filled), ← ih, skipped]

/-- A text has its words in one way. -/
theorem unique {chars : List Char} {words others : List String} (spaced : Spaced chars words)
    (again : Spaced chars others) : words = others := by
  have same : words.map String.toList = others.map String.toList :=
    spaced.filled_eq.symm.trans again.filled_eq
  exact List.map_injective_iff.mpr (fun _ _ => String.toList_inj.mp) same

/-- The parts that are not empty are the words. -/
theorem of_filled (text : String) : Spaced text.toList ((splitSpace text).filter (· ≠ "")) := by
  obtain ⟨words, spaced⟩ := exists_words text.toList
  have found : (splitSpace text).filter (· ≠ "") = words := by
    have notEmpty : (fun part : List Char => decide (String.ofList part ≠ "")) =
        fun part => decide (part ≠ []) := by
      funext part
      simp [← String.toList_inj]
    rw [splitSpace, List.filter_map, Function.comp_def, notEmpty, ← filled_open, spaced.filled_eq,
      List.map_map]
    simp
  rw [found]
  exact spaced

end Spaced

/-- Trimming takes white space from both ends and nothing else. -/
theorem trim_parts (chars : List Char) :
    ∃ before after, (∀ c ∈ before, isSpace c = true) ∧ (∀ c ∈ after, isSpace c = true) ∧
      chars = before ++ (((chars.dropWhile isSpace).reverse.dropWhile isSpace).reverse ++ after) := by
  refine ⟨chars.takeWhile isSpace,
    ((chars.dropWhile isSpace).reverse.takeWhile isSpace).reverse, ?_, ?_, ?_⟩
  · intro c member
    exact List.mem_takeWhile_imp member
  · intro c member
    exact List.mem_takeWhile_imp (List.mem_reverse.mp member)
  · rw [← List.reverse_append, List.takeWhile_append_dropWhile, List.reverse_reverse,
      List.takeWhile_append_dropWhile]

/-- What is left begins and ends with a solid character. -/
theorem trim_ends {chars core : List Char}
    (trimmed : ((chars.dropWhile isSpace).reverse.dropWhile isSpace).reverse = core)
    (filled : core ≠ []) :
    (∃ c rest, core = c :: rest ∧ isSpace c = false) ∧ ∃ c ∈ core.getLast?, isSpace c = false := by
  have cut : (chars.dropWhile isSpace).rdropWhile isSpace = core := trimmed
  constructor
  · obtain ⟨c, rest, begins⟩ := List.exists_cons_of_ne_nil filled
    obtain ⟨after, whole⟩ := List.rdropWhile_prefix isSpace (chars.dropWhile isSpace)
    rw [cut, begins, List.cons_append] at whole
    have first := List.head?_dropWhile_not isSpace chars
    rw [← whole] at first
    exact ⟨c, rest, begins, first⟩
  · have last := List.rdropWhile_last_not isSpace (chars.dropWhile isSpace) (cut ▸ filled)
    simp only [cut] at last
    exact ⟨core.getLast filled, List.getLast?_eq_some_getLast filled, by simpa using last⟩

/-- The words of a text are what trimming and splitting at white space make of it. -/
theorem spaced_iff {text : String} {words : List String} : Spaced text.toList words ↔
    words = if trim text = "" then [] else splitSpace (trim text) := by
  have found : Spaced text.toList (if trim text = "" then [] else splitSpace (trim text)) := by
    obtain ⟨before, after, front, back, parts⟩ := trim_parts text.toList
    rw [parts]
    apply Spaced.blanks_append front
    generalize trimmed : ((text.toList.dropWhile isSpace).reverse.dropWhile isSpace).reverse = core
    have spelled : trim text = String.ofList core := by rw [trim, trimmed]
    have behind : ∀ c ∈ after.head?, isSpace c = true :=
      fun c first => back c (List.mem_of_mem_head? first)
    have closed := fun words (spaced : Spaced core words) =>
      spaced.append behind (Spaced.blank back)
    simp only [List.append_nil] at closed
    apply closed
    by_cases empty : core = []
    · rw [spelled, empty, if_pos rfl]
      exact Spaced.blank fun _ member => absurd member List.not_mem_nil
    · obtain ⟨⟨c, rest, begins, visible⟩, ends⟩ := trim_ends trimmed empty
      obtain ⟨words, spaced⟩ := Spaced.exists_words core
      have parted := spaced.split_eq ends
      rw [begins, splitSpaceChars_open visible, ← begins] at parted
      have notEmpty : ¬ String.ofList core = "" := by
        simpa [← String.toList_inj] using empty
      rw [spelled, if_neg notEmpty, splitSpace, String.toList_ofList, parted, List.map_map]
      simpa using spaced
  exact ⟨fun spaced => spaced.unique found, fun same => same ▸ found⟩

end S2s.Js
