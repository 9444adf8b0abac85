import Mathlib.Data.List.DropRight
import Mathlib.Data.List.Induction
import WalletKit.Account.Phrase

set_option autoImplicit false

namespace WalletKit

namespace Blank

/-- `part` is `cs` without the white space at its two ends. -/
structure Trimmed (cs part : List Char) : Prop where
  ends : ∃ front back, cs = front ++ part ++ back ∧ (∀ c ∈ front, isBlank c) ∧
    ∀ c ∈ back, isBlank c
  first : ∀ c ∈ part.head?, ¬ isBlank c
  last : ∀ c ∈ part.getLast?, ¬ isBlank c

theorem trimStart_eq {front part : List Char} (blank : ∀ c ∈ front, isBlank c)
    (first : ∀ c ∈ part.head?, ¬ isBlank c) : trimStart (front ++ part) = part := by
  rw [trimStart, List.dropWhile_append_of_pos blank]
  cases part with
  | nil => rfl
  | cons c part => rw [List.dropWhile_cons_of_neg (first c rfl)]

theorem trimEnd_eq {part back : List Char} (blank : ∀ c ∈ back, isBlank c)
    (last : ∀ c ∈ part.getLast?, ¬ isBlank c) : trimEnd (part ++ back) = part := by
  rw [trimEnd, List.reverse_append, trimStart_eq, List.reverse_reverse]
  · exact fun c inside => blank c (List.mem_reverse.mp inside)
  · rwa [List.head?_reverse]

theorem trim_eq_of_trimmed {cs part : List Char} (trimmed : Trimmed cs part) : trim cs = part := by
  obtain ⟨⟨front, back, rfl, blankFront, blankBack⟩, first, last⟩ := trimmed
  rw [trim, List.append_assoc]
  by_cases nothing : part = []
  · have blank : ∀ c ∈ front ++ (part ++ back), isBlank c := by
      rw [nothing, List.nil_append]
      exact List.forall_mem_append.mpr ⟨blankFront, blankBack⟩
    have empty : trimStart (front ++ (part ++ back)) = [] := List.dropWhile_eq_nil_iff.mpr blank
    rw [empty, nothing]
    rfl
  · rw [trimStart_eq blankFront, trimEnd_eq blankBack last]
    rwa [List.head?_append_of_ne_nil _ nothing]

theorem exists_trimStart (cs : List Char) :
    (∃ front, cs = front ++ trimStart cs ∧ ∀ c ∈ front, isBlank c) ∧
      ∀ c ∈ (trimStart cs).head?, ¬ isBlank c := by
  constructor
  · exact ⟨cs.takeWhile isBlank, List.takeWhile_append_dropWhile.symm,
      fun c => List.mem_takeWhile_imp⟩
  · intro c found
    have first := List.head?_dropWhile_not isBlank cs
    rw [show (cs.dropWhile isBlank).head? = some c from found] at first
    simpa using first

theorem trimmed_trim (cs : List Char) : Trimmed cs (trim cs) := by
  obtain ⟨⟨front, same, blankFront⟩, first⟩ := exists_trimStart cs
  obtain ⟨⟨back, rest, blankBack⟩, last⟩ := exists_trimStart (trimStart cs).reverse
  have parted : trimStart cs = trim cs ++ back.reverse := by
    rw [← List.reverse_reverse (trimStart cs), rest, List.reverse_append]
    rfl
  refine ⟨⟨front, back.reverse, ?_, blankFront, ?_⟩, ?_, ?_⟩
  · rw [List.append_assoc, ← parted]
    exact same
  · exact fun c inside => blankBack c (List.mem_reverse.mp inside)
  · intro c found
    apply first
    rw [parted, List.head?_append, Option.mem_def.mp found]
    rfl
  · intro c found
    apply last
    rwa [trim, trimEnd, List.getLast?_reverse] at found

/-- White space behind a text makes no difference to its trimmed part. -/
theorem trim_append {back : List Char} (cs : List Char) (blank : ∀ c ∈ back, isBlank c) :
    trim (cs ++ back) = trim cs := by
  apply trim_eq_of_trimmed
  obtain ⟨⟨front, rest, same, blankFront, blankRest⟩, first, last⟩ := trimmed_trim cs
  refine ⟨⟨front, rest ++ back, ?_, blankFront, ?_⟩, first, last⟩
  · rw [← List.append_assoc, ← same]
  · exact List.forall_mem_append.mpr ⟨blankRest, blank⟩

theorem trim_eq_self {cs : List Char} (first : ∀ c ∈ cs.head?, ¬ isBlank c)
    (last : ∀ c ∈ cs.getLast?, ¬ isBlank c) : trim cs = cs :=
  trim_eq_of_trimmed
    ⟨⟨[], [], (List.append_nil cs).symm, List.forall_mem_nil _, List.forall_mem_nil _⟩, first, last⟩

theorem trim_trim (cs : List Char) : trim (trim cs) = trim cs :=
  trim_eq_self (trimmed_trim cs).first (trimmed_trim cs).last

end Blank

namespace Account

theorem blank_notMem_of_mem_splitOn {cs word : List Char} (part : word ∈ cs.splitOn ' ') :
    ' ' ∉ word := by
  induction cs generalizing word with
  | nil =>
      rw [List.splitOn_nil, List.mem_singleton] at part
      rw [part]
      exact List.not_mem_nil
  | cons c cs ih =>
      rw [List.splitOn_cons_eq_if_modifyHead] at part
      split at part
      · rcases List.mem_cons.mp part with rfl | later
        · exact List.not_mem_nil
        · exact ih later
      · rename_i other
        obtain ⟨first, rest, parts⟩ := List.exists_cons_of_ne_nil (List.splitOn_ne_nil ' ' cs)
        rw [parts] at ih part
        rcases List.mem_cons.mp part with rfl | later
        · have differs : ' ' ≠ c := fun same => other (by rw [← same]; rfl)
          exact List.not_mem_cons_of_ne_of_not_mem differs (ih List.mem_cons_self)
        · exact ih (List.mem_cons_of_mem _ later)

theorem intercalate_concat_blank {words : List (List Char)} (nonempty : words ≠ [])
    (word : List Char) :
    [' '].intercalate (words ++ [word]) = [' '].intercalate words ++ ' ' :: word := by
  induction words with
  | nil => exact absurd rfl nonempty
  | cons first words ih =>
      cases words with
      | nil => simp
      | cons second words =>
          rw [List.cons_append, List.cons_append, List.intercalate_cons_cons, ← List.cons_append,
            ih (List.cons_ne_nil _ _), List.intercalate_cons_cons]
          simp

theorem exists_intercalate_cons (word : List Char) (words : List (List Char)) :
    ∃ back, [' '].intercalate (word :: words) = word ++ back := by
  cases words with
  | nil => exact ⟨[], by rw [List.intercalate_singleton, List.append_nil]⟩
  | cons second words =>
      rw [List.intercalate_cons_cons, List.append_assoc]
      exact ⟨_, rfl⟩

theorem exists_intercalate_concat (words : List (List Char)) (word : List Char) :
    ∃ front, [' '].intercalate (words ++ [word]) = front ++ word := by
  by_cases alone : words = []
  · rw [alone]
    exact ⟨[], List.intercalate_singleton⟩
  · refine ⟨[' '].intercalate words ++ [' '], ?_⟩
    rw [intercalate_concat_blank alone, List.append_assoc]
    rfl

theorem dropEmptyEnd_concat (words : List (List Char)) (word : List Char) :
    dropEmptyEnd (words ++ [word]) = if word.isEmpty then dropEmptyEnd words else words ++ [word] :=
  List.rdropWhile_concat _ _ _

theorem getLast?_dropEmptyEnd_ne_nil (words : List (List Char)) :
    (dropEmptyEnd words).getLast? ≠ some [] := by
  induction words using List.reverseRecOn with
  | nil => exact nofun
  | append_singleton words word ih =>
      rw [dropEmptyEnd_concat]
      split
      · exact ih
      · rename_i filled
        rw [List.getLast?_concat]
        intro same
        exact filled (by rw [Option.some.inj same]; rfl)

theorem dropEmptyEnd_eq_self {words : List (List Char)} {word : List Char}
    (last : words.getLast? = some word) (filled : word ≠ []) : dropEmptyEnd words = words := by
  obtain ⟨front, rfl⟩ := List.getLast?_eq_some_iff.mp last
  rw [dropEmptyEnd_concat, if_neg fun empty => filled (List.isEmpty_iff.mp empty)]

theorem rdropWhile_blank_eq_self {cs : List Char} (last : ∀ c ∈ cs.getLast?, c ≠ ' ') :
    cs.rdropWhile (· = ' ') = cs := by
  rw [List.rdropWhile_eq_self_iff]
  intro nonempty
  simpa using last _ (List.getLast?_eq_some_getLast nonempty)

/-- Without the empty words at its end, a list loses the blanks at the end of its phrase. -/
theorem intercalate_dropEmptyEnd {words : List (List Char)} (each : ∀ word ∈ words, ' ' ∉ word) :
    [' '].intercalate (dropEmptyEnd words) = ([' '].intercalate words).rdropWhile (· = ' ') := by
  -- Words are dropped from the end, so the induction is: an empty last word is one blank there.
  induction words using List.reverseRecOn with
  | nil => rfl
  | append_singleton words word ih =>
      rw [List.forall_mem_append, List.forall_mem_singleton] at each
      rw [dropEmptyEnd_concat]
      split
      · rename_i empty
        rw [List.isEmpty_iff.mp empty, ih each.1]
        by_cases alone : words = []
        · rw [alone]
          rfl
        · rw [intercalate_concat_blank alone, List.rdropWhile_concat_pos _ _ _ (by decide)]
      · rename_i filled
        obtain ⟨front, same⟩ := exists_intercalate_concat words word
        have nonempty : word ≠ [] := fun nothing => filled (by rw [nothing]; rfl)
        rw [same, rdropWhile_blank_eq_self]
        intro c found
        rw [List.getLast?_append_of_ne_nil _ nonempty] at found
        exact ne_of_mem_of_not_mem (List.mem_of_getLast? found) each.2

theorem toList_wordsOfPhrase (s : String) :
    (wordsOfPhrase s).map String.toList =
      if ' ' ∈ s.toList then dropEmptyEnd (s.toList.splitOn ' ') else [s.toList] := by
  have back : String.toList ∘ String.ofList = id := funext fun _ => String.toList_ofList
  rw [wordsOfPhrase]
  split
  · rw [List.map_map, back, List.map_id]
  · rfl

theorem joined_wordsOfPhrase (s : String) :
    [' '].intercalate ((wordsOfPhrase s).map String.toList) =
      s.toList.rdropWhile (· = ' ') := by
  rw [toList_wordsOfPhrase]
  split
  · rw [intercalate_dropEmptyEnd fun _ => blank_notMem_of_mem_splitOn, List.intercalate_splitOn]
  · rename_i unbroken
    rw [List.intercalate_singleton, rdropWhile_blank_eq_self]
    exact fun c found => ne_of_mem_of_not_mem (List.mem_of_getLast? found) unbroken

theorem blank_notMem_of_mem_wordsOfPhrase {s word : String} (inside : word ∈ wordsOfPhrase s) :
    ' ' ∉ word.toList := by
  have listed := List.mem_map_of_mem (f := String.toList) inside
  rw [toList_wordsOfPhrase] at listed
  split at listed
  · exact blank_notMem_of_mem_splitOn ((List.rdropWhile_prefix List.isEmpty _).subset listed)
  · rename_i unbroken
    rwa [List.mem_singleton.mp listed]

theorem last_wordsOfPhrase_ne_empty {s word : String} (broken : ' ' ∈ s.toList)
    (last : (wordsOfPhrase s).getLast? = some word) : word ≠ "" := by
  rintro rfl
  have listed : ((wordsOfPhrase s).map String.toList).getLast? = some [] := by
    rw [List.getLast?_map, last]
    rfl
  rw [toList_wordsOfPhrase, if_pos broken] at listed
  exact getLast?_dropEmptyEnd_ne_nil _ listed

theorem phraseOfWords_wordsOfPhrase (s : String) :
    phraseOfWords (wordsOfPhrase s) = String.ofList (Blank.trim s.toList) := by
  have blank : ∀ c ∈ s.toList.rtakeWhile (· = ' '), Blank.isBlank c := by
    intro c inside
    have same : c = ' ' := by simpa using List.mem_rtakeWhile_imp inside
    rw [same]
    decide
  rw [phraseOfWords, joined_wordsOfPhrase, ← Blank.trim_append _ blank,
    List.rdropWhile_append_rtakeWhile]

/-- Words that their phrase can be split into again: no word holds a blank, and neither the
beginning of the first word nor the end of the last one is white space. -/
structure Separable (words : List String) : Prop where
  each : ∀ word ∈ words, ' ' ∉ word.toList
  first : ∃ word ∈ words.head?, ∃ c ∈ word.toList.head?, ¬ Blank.isBlank c
  last : ∃ word ∈ words.getLast?, ∃ c ∈ word.toList.getLast?, ¬ Blank.isBlank c

theorem phrase_untouched {words : List String} (separable : Separable words) :
    Blank.trim ([' '].intercalate (words.map String.toList)) =
      [' '].intercalate (words.map String.toList) := by
  obtain ⟨-, ⟨first, head, c, begins, inkFirst⟩, last, final, d, ends, inkLast⟩ := separable
  apply Blank.trim_eq_self
  · obtain ⟨rest, rfl⟩ := List.head?_eq_some_iff.mp head
    obtain ⟨back, same⟩ := exists_intercalate_cons first.toList (rest.map String.toList)
    rw [List.map_cons, same, List.head?_append, Option.mem_def.mp begins]
    intro c' found
    cases found
    exact inkFirst
  · obtain ⟨rest, rfl⟩ := List.getLast?_eq_some_iff.mp final
    obtain ⟨front, same⟩ := exists_intercalate_concat (rest.map String.toList) last.toList
    rw [List.map_append, List.map_singleton, same, List.getLast?_append, Option.mem_def.mp ends]
    intro d' found
    cases found
    exact inkLast

theorem wordsOfPhrase_phraseOfWords {words : List String} (separable : Separable words) :
    wordsOfPhrase (phraseOfWords words) = words := by
  obtain ⟨word, final, d, ends, -⟩ := separable.last
  have listed : (words.map String.toList).getLast? = some word.toList := by
    rw [List.getLast?_map, Option.mem_def.mp final]
    rfl
  have nonempty : words.map String.toList ≠ [] := by
    intro nothing
    rw [nothing] at listed
    cases listed
  have filled : word.toList ≠ [] := by
    intro nothing
    rw [nothing] at ends
    cases ends
  have parts : ([' '].intercalate (words.map String.toList)).splitOn ' ' =
      words.map String.toList :=
    List.splitOn_intercalate ' ' (List.forall_mem_map.mpr separable.each) nonempty
  apply List.map_injective_iff.mpr fun _ _ => String.toList_injective
  rw [toList_wordsOfPhrase, phraseOfWords, String.toList_ofList, phrase_untouched separable]
  split
  · rw [parts, dropEmptyEnd_eq_self listed filled]
  · rename_i unbroken
    rw [← parts, List.splitOn_eq_singleton unbroken, List.intercalate_singleton]

/-- A phrase that is split loses the blanks at its end only: joined with blanks, its words are the
phrase without them, no word holds a blank, and the last one is not empty if there was a blank to
split at. Joined again it is without the white space at both ends, which a second time changes
nothing. Words that hold no blank, with no white space at the two ends of all, come back from their
phrase. -/
theorem phrase_split_and_joined :
    (∀ s, " ".intercalate (wordsOfPhrase s) =
      String.ofList (s.toList.rdropWhile (· = ' '))) ∧
    (∀ s, ∀ word ∈ wordsOfPhrase s, ' ' ∉ word.toList) ∧
    (∀ s word, ' ' ∈ s.toList → (wordsOfPhrase s).getLast? = some word → word ≠ "") ∧
    (∀ s, Blank.Trimmed s.toList (phraseOfWords (wordsOfPhrase s)).toList) ∧
    (∀ s, phraseOfWords (wordsOfPhrase (phraseOfWords (wordsOfPhrase s))) =
      phraseOfWords (wordsOfPhrase s)) ∧
    ∀ words, Separable words → wordsOfPhrase (phraseOfWords words) = words := by
  refine ⟨?_, fun s word => blank_notMem_of_mem_wordsOfPhrase,
    fun s word => last_wordsOfPhrase_ne_empty, ?_, ?_, fun words => wordsOfPhrase_phraseOfWords⟩
  · intro s
    rw [← String.toList_inj, String.toList_intercalate]
    exact (joined_wordsOfPhrase s).trans String.toList_ofList.symm
  · intro s
    rw [phraseOfWords_wordsOfPhrase, String.toList_ofList]
    exact Blank.trimmed_trim s.toList
  · intro s
    rw [phraseOfWords_wordsOfPhrase, phraseOfWords_wordsOfPhrase, String.toList_ofList,
      Blank.trim_trim]

/-- A tabulator is part of its word, two blanks enclose an empty one, those at the end are lost. -/
theorem phrase_split_and_joined_of_three_blanks :
    ' ' ∈ "able  about ".toList ∧ wordsOfPhrase "able  about " = ["able", "", "about"] ∧
      ' ' ∉ "able".toList ∧ "about" ≠ "" ∧ Separable ["able\tabove", "", "about"] ∧
      wordsOfPhrase (phraseOfWords ["able\tabove", "", "about"]) =
        ["able\tabove", "", "about"] := by
  obtain ⟨-, unbroken, filled, -, -, back⟩ := phrase_split_and_joined
  have words : wordsOfPhrase "able  about " = ["able", "", "about"] := by decide
  have inside : "able" ∈ wordsOfPhrase "able  about " := by decide
  have last : (wordsOfPhrase "able  about ").getLast? = some "about" := by decide
  have separable : Separable ["able\tabove", "", "about"] :=
    ⟨by decide, ⟨_, rfl, 'a', by decide, by decide⟩, ⟨_, rfl, 't', by decide, by decide⟩⟩
  exact ⟨by decide, words, unbroken _ _ inside, filled _ _ (by decide) last, separable,
    back _ separable⟩

end Account

end WalletKit
