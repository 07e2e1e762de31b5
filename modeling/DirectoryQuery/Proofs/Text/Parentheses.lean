/-! The parentheses of a text, whatever else it holds. Its depth is the number of those that are opened
less the number of those that are closed. A balanced text closes what it opens and nothing else. A group
is a text that one pair of parentheses encloses: its depth comes back to zero at the last character. -/
namespace DirectoryQuery.Text

def isParenthesis (c : Char) : Bool := c == '(' || c == ')'

/-- What is left of a text without the characters that are no parentheses. -/
def skeleton (text : List Char) : List Char := text.filter isParenthesis

def depth (text : List Char) : Int := text.count '(' - text.count ')'

structure Balanced (text : List Char) : Prop where
  nonnegative : ∀ front, front <+: text → 0 ≤ depth front
  closed : depth text = 0

structure IsGroup (text : List Char) : Prop where
  filled : text ≠ []
  closes : ∀ front, front <+: text → front ≠ [] → (depth front = 0 ↔ front = text)

/-- No parenthesis stands in the text. -/
def Flat (text : List Char) : Prop := ∀ c ∈ text, isParenthesis c = false

instance (text : List Char) : Decidable (Flat text) :=
  decidable_of_iff (text.all (!isParenthesis ·) = true) (by simp [Flat])

variable {text rest : List Char}

@[simp] theorem depth_nil : depth [] = 0 := rfl

@[simp] theorem depth_append (text rest : List Char) : depth (text ++ rest) = depth text + depth rest := by
  simp only [depth, List.count_append]
  omega

@[simp] theorem depth_opening (text : List Char) : depth ('(' :: text) = depth text + 1 := by
  have other : ('(' == ')') = false := rfl
  simp only [depth, List.count_cons, other, beq_self_eq_true, if_true, Bool.false_eq_true, if_false]
  omega

@[simp] theorem depth_skeleton (text : List Char) : depth (skeleton text) = depth text := by
  have opening : (skeleton text).count '(' = text.count '(' := List.count_filter rfl
  have closing : (skeleton text).count ')' = text.count ')' := List.count_filter rfl
  simp only [depth, opening, closing]

@[simp] theorem skeleton_append (text rest : List Char) :
    skeleton (text ++ rest) = skeleton text ++ skeleton rest := List.filter_append ..

theorem Flat.skeleton (flat : Flat text) : skeleton text = [] := by
  rw [Text.skeleton, List.filter_eq_nil_iff]
  intro c member
  simp [flat c member]

theorem flat_append_iff : Flat (text ++ rest) ↔ Flat text ∧ Flat rest := List.forall_mem_append

/-- Only the parentheses of a text decide whether it is balanced. -/
theorem balanced_skeleton_iff : Balanced (skeleton text) ↔ Balanced text := by
  constructor
  · intro balanced
    refine ⟨?_, by simpa using balanced.closed⟩
    intro front start
    have inside : skeleton front <+: skeleton text := start.filter _
    simpa using balanced.nonnegative _ inside
  · intro balanced
    refine ⟨?_, by simpa using balanced.closed⟩
    intro front start
    obtain ⟨before, inside, rfl⟩ := List.prefix_filter_iff.mp start
    have later := balanced.nonnegative before inside
    rwa [← depth_skeleton] at later

theorem balanced_nil : Balanced [] := by
  refine ⟨?_, rfl⟩
  intro front start
  obtain rfl := List.prefix_nil.mp start
  exact Int.le_refl 0

theorem Flat.balanced (flat : Flat text) : Balanced text := by
  rw [← balanced_skeleton_iff, flat.skeleton]
  exact balanced_nil

/-- The beginning of two texts ends in the first or in the second. -/
theorem prefix_append_cases {front : List Char} (start : front <+: text ++ rest) :
    front <+: text ∨ ∃ more, more <+: rest ∧ front = text ++ more := by
  obtain ⟨after, same⟩ := start
  rcases List.append_eq_append_iff.mp same with ⟨more, within, _⟩ | ⟨more, beyond, within⟩
  · exact Or.inl ⟨more, within.symm⟩
  · exact Or.inr ⟨more, ⟨after, within.symm⟩, beyond⟩

theorem Balanced.append (first : Balanced text) (second : Balanced rest) : Balanced (text ++ rest) := by
  constructor
  · intro front start
    rcases prefix_append_cases start with inside | ⟨more, inside, rfl⟩
    · exact first.nonnegative front inside
    · have later := second.nonnegative more inside
      rw [depth_append, first.closed]
      omega
  · rw [depth_append, first.closed, second.closed]
    rfl

/-- Between the two parentheses around a balanced text the depth is positive. -/
theorem Balanced.depth_enclosed {inside front : List Char} (balanced : Balanced inside)
    (start : front <+: '(' :: (inside ++ [')'])) (some : front ≠ []) :
    0 < depth front ∧ front ≠ '(' :: (inside ++ [')']) ∨
      depth front = 0 ∧ front = '(' :: (inside ++ [')']) := by
  obtain rfl | ⟨more, rfl, within⟩ := List.prefix_cons_iff.mp start
  · exact absurd rfl some
  · rcases List.prefix_concat_iff.mp within with rfl | proper
    · refine Or.inr ⟨?_, rfl⟩
      rw [depth_opening, depth_append, balanced.closed]
      rfl
    · refine Or.inl ⟨?_, ?_⟩
      · have := balanced.nonnegative more proper
        rw [depth_opening]
        omega
      · intro same
        have short := proper.length_le
        have long := congrArg List.length same
        simp only [List.length_cons, List.length_append, List.length_nil] at long
        omega

theorem Balanced.enclosed (balanced : Balanced text) : Balanced ('(' :: (text ++ [')'])) := by
  constructor
  · intro front start
    by_cases some : front = []
    · simp [some]
    · rcases balanced.depth_enclosed start some with ⟨positive, _⟩ | ⟨zero, _⟩ <;> omega
  · rw [depth_opening, depth_append, balanced.closed]
    rfl

theorem Balanced.isGroup_enclosed (balanced : Balanced text) : IsGroup ('(' :: (text ++ [')'])) := by
  refine ⟨by simp, ?_⟩
  intro front start some
  rcases balanced.depth_enclosed start some with ⟨positive, proper⟩ | ⟨zero, whole⟩
  · exact ⟨fun zero => by omega, fun whole => absurd whole proper⟩
  · exact ⟨fun _ => whole, fun _ => zero⟩

end DirectoryQuery.Text
