import DirectoryQuery.Text.Blank
import DirectoryQuery.Text.Letter

/-! Where one text occurs in another. A separator cuts a text into pieces, which joined by it give the text
again. A word that is taken away wherever it occurs leaves a text without it as it is, and behind the word
it goes on with the rest. -/
namespace DirectoryQuery.Text

variable {separator c : Char} {first piece word cs rest : List Char}

theorem pieces_eq_splitOn (separator : Char) (cs : List Char) :
    pieces separator cs = cs.splitOn separator := by
  induction cs with
  | nil => rfl
  | cons c cs ih =>
    obtain ⟨first, rest, split⟩ := List.exists_cons_of_ne_nil (List.splitOn_ne_nil separator cs)
    rw [pieces, ih, List.splitOn_cons_eq_if_modifyHead, split]
    simp only [beq_iff_eq, List.modifyHead_cons]

/-- No separator is left in a piece. -/
theorem notMem_of_mem_splitOn (listed : piece ∈ cs.splitOn separator) : separator ∉ piece := by
  induction cs generalizing piece with
  | nil =>
    rw [List.splitOn_nil, List.mem_singleton] at listed
    simp [listed]
  | cons c cs ih =>
    obtain ⟨first, rest, split⟩ := List.exists_cons_of_ne_nil (List.splitOn_ne_nil separator cs)
    rw [List.splitOn_cons_eq_if_modifyHead, split] at listed
    rw [split] at ih
    split at listed
    · rcases List.mem_cons.mp listed with rfl | later
      · simp
      · exact ih later
    · rename_i other
      rcases List.mem_cons.mp listed with rfl | later
      · rw [List.mem_cons, not_or]
        exact ⟨fun same => other (by simp [same]), ih (by simp)⟩
      · exact ih (by simp [later])

/-- The first piece is the whole text, or what stands in front of its first separator. -/
theorem singleton_prefix_pieces_iff (whole : separator ∉ first) (cs : List Char) :
    [first] <+: pieces separator cs ↔ cs = first ∨ first ++ [separator] <+: cs := by
  rw [pieces_eq_splitOn]
  constructor
  · rintro ⟨others, split⟩
    have joined : [separator].intercalate (cs.splitOn separator) = cs :=
      List.intercalate_splitOn separator
    rw [← split] at joined
    cases others with
    | nil => exact .inl (by simpa using joined.symm)
    | cons second others => exact .inr ⟨_, by simpa using joined⟩
  · rintro (rfl | ⟨behind, rfl⟩)
    · exact ⟨[], (List.splitOn_eq_singleton whole).symm⟩
    · rw [List.append_assoc, List.singleton_append, List.splitOn_append_cons_self_of_not_mem whole]
      exact List.prefix_append [first] _

theorem eraseFrom_eq_erase (unwanted : List Char) (passing : Nat) (cs : List Char) :
    eraseFrom unwanted passing cs = erase unwanted (cs.drop passing) := by
  induction passing generalizing cs with
  | zero => rfl
  | succ passing ih =>
    cases cs with
    | nil => rfl
    | cons c cs => rw [eraseFrom, ih, List.drop_succ_cons]

theorem erase_of_absent (absent : ¬word <:+: cs) : erase word cs = cs := by
  induction cs with
  | nil => rfl
  | cons c cs ih =>
    rw [List.infix_cons_iff, not_or, ← List.isPrefixOf_iff_prefix] at absent
    obtain ⟨other, behind⟩ := absent
    rw [erase, eraseFrom, if_neg other, eraseFrom_eq_erase, List.drop_zero, ih behind]

theorem erase_append (filled : word ≠ []) : erase word (word ++ rest) = erase word rest := by
  cases word with
  | nil => exact absurd rfl filled
  | cons c cs =>
    have found : (c :: cs).isPrefixOf (c :: (cs ++ rest)) = true :=
      List.isPrefixOf_iff_prefix.mpr (List.prefix_append (c :: cs) rest)
    rw [List.cons_append, erase, eraseFrom, if_pos found, eraseFrom_eq_erase, List.length_cons,
      Nat.add_sub_cancel, List.drop_left]

/-- A word occurs only behind a text that does not hold its first letter. -/
theorem infix_append_iff_of_notMem {front : List Char} (unseen : c ∉ front) :
    c :: word <:+: front ++ rest ↔ c :: word <:+: rest := by
  induction front with
  | nil => rfl
  | cons d front ih =>
    rw [List.mem_cons, not_or] at unseen
    obtain ⟨other, unseen⟩ := unseen
    rw [List.cons_append, List.infix_cons_iff, List.cons_prefix_cons, ih unseen]
    simp [other]

end DirectoryQuery.Text
