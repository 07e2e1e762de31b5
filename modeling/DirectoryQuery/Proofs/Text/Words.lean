import DirectoryQuery.Proofs.Text.Blank

/-! The words of a text: the pieces between its blanks that are not empty. Every text is blank, or starts
with a word behind blanks; what follows that word opens with a blank, if there is anything. Taking words
off the front one by one therefore takes the first of all of them, and what is left starts with the next. -/
namespace DirectoryQuery.Text

/-- Something without a blank. -/
@[mk_iff]
structure IsWord (cs : List Char) : Prop where
  filled : cs ≠ []
  unbroken : ∀ c ∈ cs, isBlank c = false

instance (cs : List Char) : Decidable (IsWord cs) :=
  decidable_of_iff ((!cs.isEmpty && cs.all (!isBlank ·)) = true) (by simp [isWord_iff])

/-- One blank or more, and nothing else. -/
@[mk_iff]
structure IsGap (cs : List Char) : Prop where
  filled : cs ≠ []
  blanks : IsBlanks cs

instance (cs : List Char) : Decidable (IsGap cs) :=
  decidable_of_iff ((!cs.isEmpty && cs.all isBlank) = true) (by simp [isGap_iff, IsBlanks])

/-- A word may end in front of this: a blank opens it, if there is anything. -/
def StartsBlank (cs : List Char) : Prop := ∀ c ∈ cs.head?, isBlank c = true

/-- Every word of a text, however many there are. -/
def allWords (cs : List Char) : List (List Char) := (cs.splitOnP isBlank).filter (!·.isEmpty)

variable {cs before word rest : List Char}

theorem IsWord.isFlush_append (isWord : IsWord word) (rest : List Char) : IsFlush (word ++ rest) := by
  obtain ⟨c, cs, rfl⟩ := List.exists_cons_of_ne_nil isWord.filled
  rintro _ ⟨rfl⟩
  exact isWord.unbroken c (by simp)

theorem IsWord.append_ne_nil (isWord : IsWord word) (rest : List Char) : word ++ rest ≠ [] := by
  simp [isWord.filled]

theorem IsBlanks.startsBlank (blanks : IsBlanks cs) : StartsBlank cs := by
  intro c first
  exact blanks c (List.mem_of_head? first)

theorem IsGap.startsBlank_append (gap : IsGap cs) (rest : List Char) : StartsBlank (cs ++ rest) := by
  obtain ⟨c, cs, rfl⟩ := List.exists_cons_of_ne_nil gap.filled
  rintro _ ⟨rfl⟩
  exact gap.blanks c (by simp)

/-- Where a word may end and another one starts, there is a gap. -/
theorem isGap_of_startsBlank (apart : StartsBlank (before ++ rest)) (blanks : IsBlanks before)
    (flush : IsFlush rest) (filled : rest ≠ []) : IsGap before := by
  refine ⟨?_, blanks⟩
  rintro rfl
  obtain ⟨c, rest, rfl⟩ := List.exists_cons_of_ne_nil filled
  exact absurd ((flush c rfl).symm.trans (apart c rfl)) (by decide)

/-- A text is blank, or it is cut behind its first word. -/
theorem isBlanks_or_word (cs : List Char) :
    IsBlanks cs ∨ ∃ before word rest, IsBlanks before ∧ IsWord word ∧ StartsBlank rest ∧
      cs = before ++ (word ++ rest) := by
  obtain ⟨before, front, whole⟩ := exists_dropBlanks cs
  cases start : dropBlanks cs with
  | nil => exact .inl (dropBlanks_eq_nil_iff.mp start)
  | cons c cs' =>
    right
    let stays (c : Char) : Bool := !isBlank c
    have first : stays c = true := by
      simp [stays, isFlush_dropBlanks cs c (by simp [start])]
    refine ⟨before, (c :: cs').takeWhile stays, (c :: cs').dropWhile stays, front, ⟨?_, ?_⟩, ?_, ?_⟩
    · rw [List.takeWhile_cons_of_pos first]
      simp
    · intro d taken
      simpa [stays] using List.mem_takeWhile_imp taken
    · intro d ends
      have stops := List.head?_dropWhile_not stays (c :: cs')
      rw [Option.mem_def.mp ends] at stops
      simpa [stays] using stops
    · rw [List.takeWhile_append_dropWhile, ← start]
      exact whole

/-! All words. -/

theorem allWords_append_blank (cs : List Char) (blank : isBlank c = true) (rest : List Char) :
    allWords (cs ++ c :: rest) = allWords cs ++ allWords rest := by
  rw [allWords, List.splitOnP_append_cons cs rest blank, List.filter_append]
  rfl

theorem allWords_blanks_append (front : IsBlanks before) (rest : List Char) :
    allWords (before ++ rest) = allWords rest := by
  induction before with
  | nil => rfl
  | cons c before ih =>
    have blank := front c (by simp)
    have later := ih fun d listed => front d (by simp [listed])
    rw [List.cons_append, ← later]
    simpa [allWords] using allWords_append_blank [] blank (before ++ rest)

theorem allWords_blanks (blanks : IsBlanks cs) : allWords cs = [] := by
  simpa [allWords] using allWords_blanks_append blanks []

theorem allWords_word (front : IsBlanks before) (isWord : IsWord word) (apart : StartsBlank rest) :
    allWords (before ++ (word ++ rest)) = word :: allWords rest := by
  have single : allWords word = [word] := by
    rw [allWords, List.splitOnP_eq_singleton isWord.unbroken]
    simp [isWord.filled]
  rw [allWords_blanks_append front]
  cases rest with
  | nil => simp [single, show allWords [] = [] from rfl]
  | cons c rest =>
    have blank := apart c rfl
    rw [allWords_append_blank word blank, single, List.singleton_append]
    have gap : IsBlanks [c] := by simpa [IsBlanks] using blank
    exact congrArg (word :: ·) (allWords_blanks_append gap rest).symm

theorem allWords_eq_nil_iff : allWords cs = [] ↔ IsBlanks cs := by
  refine ⟨?_, allWords_blanks⟩
  intro none
  rcases isBlanks_or_word cs with blanks | ⟨before, word, rest, front, isWord, apart, rfl⟩
  · exact blanks
  · simp [allWords_word front isWord apart] at none

/-! The first words. -/

theorem words_blanks (blanks : IsBlanks cs) (limit : Nat) : words limit cs = [] := by
  have none : dropBlanks cs = [] := dropBlanks_eq_nil_iff.mpr blanks
  cases limit <;> simp [words, none]

/-- What is left in the end stands as it is. -/
theorem words_zero (front : IsBlanks before) (flush : IsFlush rest) (filled : rest ≠ []) :
    words 0 (before ++ rest) = [rest] := by
  simp [words, dropBlanks_append front, flush.dropBlanks_eq, filled]

theorem words_succ (front : IsBlanks before) (isWord : IsWord word) (apart : StartsBlank rest)
    (limit : Nat) : words (limit + 1) (before ++ (word ++ rest)) = word :: words limit rest := by
  have start : dropBlanks (before ++ (word ++ rest)) = word ++ rest := by
    rw [dropBlanks_append front, (isWord.isFlush_append rest).dropBlanks_eq]
  have inside : ∀ c ∈ word, (!isBlank c) = true := by
    intro c listed
    simp [isWord.unbroken c listed]
  have outside : rest.takeWhile (fun c => !isBlank c) = [] ∧
      rest.dropWhile (fun c => !isBlank c) = rest := by
    cases rest with
    | nil => simp
    | cons c rest => simp [apart c rfl]
  simp [words, start, isWord.filled, List.takeWhile_append_of_pos inside,
    List.dropWhile_append_of_pos inside, outside]

/-- There are as many of the first words as there are words, up to the limit and the one that starts what
is left. -/
theorem length_words (limit : Nat) (cs : List Char) :
    (words limit cs).length = min (limit + 1) (allWords cs).length := by
  induction limit generalizing cs with
  | zero =>
    rcases isBlanks_or_word cs with blanks | ⟨before, word, rest, front, isWord, apart, rfl⟩
    · simp [words_blanks blanks, allWords_blanks blanks]
    · simp [words_zero front (isWord.isFlush_append rest) (isWord.append_ne_nil rest),
        allWords_word front isWord apart]
  | succ limit ih =>
    rcases isBlanks_or_word cs with blanks | ⟨before, word, rest, front, isWord, apart, rfl⟩
    · simp [words_blanks blanks, allWords_blanks blanks]
    · simp only [words_succ front isWord apart, allWords_word front isWord apart, List.length_cons, ih]
      omega

/-- If there are no more words than that, they are all taken. -/
theorem words_eq_allWords (few : (allWords cs).length ≤ limit) : words limit cs = allWords cs := by
  induction limit generalizing cs with
  | zero =>
    have none : allWords cs = [] := List.length_eq_zero_iff.mp (Nat.le_zero.mp few)
    rw [words_blanks (allWords_eq_nil_iff.mp none), none]
  | succ limit ih =>
    rcases isBlanks_or_word cs with blanks | ⟨before, word, rest, front, isWord, apart, rfl⟩
    · rw [words_blanks blanks, allWords_blanks blanks]
    · rw [allWords_word front isWord apart, List.length_cons] at few
      rw [words_succ front isWord apart, allWords_word front isWord apart, ih (by omega)]

end DirectoryQuery.Text
