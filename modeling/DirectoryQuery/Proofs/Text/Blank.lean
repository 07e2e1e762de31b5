import DirectoryQuery.Text.Blank
import Mathlib.Data.List.DropRight

/-! Blanks around a text and between its words. Trimming is fixed by what it leaves: the one text without
a blank at either end that the whole is made of by adding blanks. Cutting off a number of words is fixed by
the words of a text, the pieces between its blanks that are not empty. -/
namespace DirectoryQuery.Text

/-- Nothing but blanks, if anything. -/
def IsBlanks (cs : List Char) : Prop := ∀ c ∈ cs, isBlank c = true

instance (cs : List Char) : Decidable (IsBlanks cs) :=
  decidable_of_iff (cs.all isBlank = true) (by simp [IsBlanks])

/-- No blank stands in front. -/
def IsFlush (cs : List Char) : Prop := ∀ c ∈ cs.head?, isBlank c = false

instance (cs : List Char) : Decidable (IsFlush cs) :=
  decidable_of_iff (cs.head?.all (!isBlank ·) = true) (by cases cs <;> simp [IsFlush])

/-- No blank stands at either end. -/
structure IsTrimmed (cs : List Char) : Prop where
  front : IsFlush cs
  back : IsFlush cs.reverse

instance (cs : List Char) : Decidable (IsTrimmed cs) :=
  decidable_of_iff (IsFlush cs ∧ IsFlush cs.reverse)
    ⟨fun ⟨front, back⟩ => ⟨front, back⟩, fun ⟨front, back⟩ => ⟨front, back⟩⟩

/-- A text is this one with blanks around it, if any, and this one has none at its ends. -/
structure IsCore (core cs : List Char) : Prop where
  trimmed : IsTrimmed core
  around : ∃ before after, IsBlanks before ∧ IsBlanks after ∧ cs = before ++ core ++ after

variable {cs core before after : List Char}

theorem IsBlanks.append (first : IsBlanks before) (second : IsBlanks after) :
    IsBlanks (before ++ after) := by
  intro c listed
  rcases List.mem_append.mp listed with there | there
  · exact first c there
  · exact second c there

theorem IsBlanks.reverse (blanks : IsBlanks cs) : IsBlanks cs.reverse := by
  intro c listed
  exact blanks c (List.mem_reverse.mp listed)

/-! Blanks in front. -/

theorem dropBlanks_eq_nil_iff : dropBlanks cs = [] ↔ ∀ c ∈ cs, isBlank c = true := by
  rw [dropBlanks, List.dropWhile_eq_nil_iff]

theorem dropBlanks_append (blanks : IsBlanks before) (cs : List Char) :
    dropBlanks (before ++ cs) = dropBlanks cs :=
  List.dropWhile_append_of_pos blanks

theorem IsFlush.dropBlanks_eq (flush : IsFlush cs) : dropBlanks cs = cs := by
  cases cs with
  | nil => rfl
  | cons c cs => simp [dropBlanks, flush c rfl]

theorem isFlush_dropBlanks (cs : List Char) : IsFlush (dropBlanks cs) := by
  intro c first
  have stops := List.head?_dropWhile_not isBlank cs
  rw [← dropBlanks, first] at stops
  exact stops

theorem exists_dropBlanks (cs : List Char) :
    ∃ before, IsBlanks before ∧ cs = before ++ dropBlanks cs :=
  ⟨cs.takeWhile isBlank, fun _ => List.mem_takeWhile_imp, List.takeWhile_append_dropWhile.symm⟩

/-! Blanks at both ends. -/

/-- Only blanks are trimmed to nothing. -/
theorem trim_eq_nil_iff : trim cs = [] ↔ ∀ c ∈ cs, isBlank c = true := by
  calc trim cs = []
    _ ↔ ∀ c ∈ dropBlanks cs, isBlank c = true := by
      rw [trim, List.reverse_eq_nil_iff, dropBlanks_eq_nil_iff]
      simp only [List.mem_reverse]
    _ ↔ dropBlanks (dropBlanks cs) = [] := dropBlanks_eq_nil_iff.symm
    _ ↔ dropBlanks cs = [] := by rw [dropBlanks, dropBlanks, List.dropWhile_idempotent]
    _ ↔ ∀ c ∈ cs, isBlank c = true := dropBlanks_eq_nil_iff

/-- Blanks around a text that has none at its ends are trimmed away, and nothing else. -/
theorem IsTrimmed.trim_eq (trimmed : IsTrimmed cs) (front : IsBlanks before) (back : IsBlanks after) :
    trim (before ++ cs ++ after) = cs := by
  cases cs with
  | nil =>
    apply trim_eq_nil_iff.mpr
    rw [List.append_nil]
    exact front.append back
  | cons c cs =>
    have flush : IsFlush (c :: cs ++ after) := trimmed.front
    rw [trim, List.append_assoc, dropBlanks_append front, flush.dropBlanks_eq, List.reverse_append,
      dropBlanks_append back.reverse, trimmed.back.dropBlanks_eq, List.reverse_reverse]

theorem exists_trim_flush (cs : List Char) :
    ∃ after, IsBlanks after ∧ dropBlanks cs = trim cs ++ after := by
  obtain ⟨after, back, split⟩ := exists_dropBlanks (dropBlanks cs).reverse
  refine ⟨after.reverse, back.reverse, ?_⟩
  rw [← List.reverse_inj, split, trim]
  simp

theorem isTrimmed_trim (cs : List Char) : IsTrimmed (trim cs) := by
  constructor
  · obtain ⟨after, _, whole⟩ := exists_trim_flush cs
    intro c first
    apply isFlush_dropBlanks cs c
    rw [whole, List.head?_append, Option.mem_def.mp first]
    rfl
  · rw [trim, List.reverse_reverse]
    exact isFlush_dropBlanks _

theorem exists_trim (cs : List Char) :
    ∃ before after, IsBlanks before ∧ IsBlanks after ∧ cs = before ++ trim cs ++ after := by
  obtain ⟨before, front, whole⟩ := exists_dropBlanks cs
  obtain ⟨after, back, flush⟩ := exists_trim_flush cs
  refine ⟨before, after, front, back, ?_⟩
  rw [List.append_assoc, ← flush]
  exact whole

/-- Trimming takes the blanks around a text away, and only those. -/
theorem isCore_iff : IsCore core cs ↔ trim cs = core := by
  constructor
  · rintro ⟨trimmed, before, after, front, back, rfl⟩
    exact trimmed.trim_eq front back
  · rintro rfl
    exact ⟨isTrimmed_trim cs, exists_trim cs⟩

/-- Blanks around a text are not looked at. -/
theorem trim_append (front : IsBlanks before) (back : IsBlanks after) (cs : List Char) :
    trim (before ++ cs ++ after) = trim cs := by
  obtain ⟨first, last, front', back', whole⟩ := exists_trim cs
  have same : before ++ cs ++ after = (before ++ first) ++ trim cs ++ (last ++ after) := by
    conv_lhs => rw [whole]
    simp only [List.append_assoc]
  rw [same, (isTrimmed_trim cs).trim_eq (front.append front') (back'.append back)]

theorem IsTrimmed.trim_self (trimmed : IsTrimmed cs) : trim cs = cs := by
  have none : IsBlanks [] := nofun
  simpa using trimmed.trim_eq none none

end DirectoryQuery.Text
