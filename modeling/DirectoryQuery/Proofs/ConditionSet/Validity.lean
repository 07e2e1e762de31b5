import DirectoryQuery.ConditionSet.Filter

/-! Which condition sets have a filter. Only an invalid operator stands in the way of one, and the first
of them in the order of the text is told. -/
namespace DirectoryQuery

namespace Condition

def isValid (condition : Condition) : Bool := (Operator.ofToken? condition.operator).isSome

/-- An operator is a text of the registry. No other value is one. -/
theorem isValid_iff {condition : Condition} :
    condition.isValid = true ↔ ∃ token ∈ Operator.tokens, condition.operator = .text token := by
  unfold isValid Operator.ofToken?
  split
  · rename_i token written
    rw [List.lookup_isSome_iff, Operator.tokens, written]
    constructor
    · rintro ⟨entry, listed, same⟩
      exact ⟨entry.1, List.mem_map_of_mem listed, by rw [eq_of_beq same]⟩
    · rintro ⟨found, listed, same⟩
      obtain rfl := Value.text.inj same
      obtain ⟨entry, member, rfl⟩ := List.mem_map.mp listed
      exact ⟨entry, member, beq_self_eq_true _⟩
  · rename_i other
    refine ⟨nofun, ?_⟩
    rintro ⟨token, _, written⟩
    exact absurd written (other token)

/-- What stands in the place of an operator in the first condition without one. -/
def firstInvalid? (conditions : List Condition) : Option Value :=
  (conditions.find? (!·.isValid)).map (·.operator)

theorem firstInvalid?_cons (condition : Condition) (rest : List Condition) :
    firstInvalid? (condition :: rest) =
      if condition.isValid then firstInvalid? rest else some condition.operator := by
  cases valid : condition.isValid <;> simp [firstInvalid?, valid]

theorem firstInvalid?_append (conditions others : List Condition) :
    firstInvalid? (conditions ++ others) = (firstInvalid? conditions).or (firstInvalid? others) := by
  simp only [firstInvalid?, List.find?_append]
  cases conditions.find? (!·.isValid) <;> rfl

theorem firstInvalid?_eq_none_iff {conditions : List Condition} :
    firstInvalid? conditions = none ↔ ∀ c ∈ conditions, c.isValid = true := by
  simp [firstInvalid?]

theorem exists_firstInvalid {conditions : List Condition} {c : Condition} (listed : c ∈ conditions)
    (invalid : c.isValid = false) : ∃ token, firstInvalid? conditions = some token := by
  apply Option.ne_none_iff_exists'.mp
  intro none
  have valid := firstInvalid?_eq_none_iff.mp none c listed
  exact absurd (invalid.symm.trans valid) (by decide)

/-- The first of the invalid operators has valid ones in front of it, and anything behind it. -/
theorem firstInvalid?_eq_some_iff {conditions : List Condition} :
    firstInvalid? conditions = some token ↔ ∃ before c, before ++ [c] <+: conditions ∧
      (∀ b ∈ before, b.isValid = true) ∧ c.isValid = false ∧ c.operator = token := by
  simp only [firstInvalid?, Option.map_eq_some_iff, List.find?_eq_some_iff_append,
    Bool.not_eq_true', Bool.not_eq_false']
  constructor
  · rintro ⟨c, ⟨invalid, before, after, rfl, valid⟩, token⟩
    exact ⟨before, c, ⟨after, by simp⟩, valid, invalid, token⟩
  · rintro ⟨before, c, ⟨after, rfl⟩, valid, invalid, token⟩
    exact ⟨c, ⟨invalid, before, after, by simp, valid⟩, token⟩

theorem fragment_of_valid {condition : Condition} (valid : condition.isValid = true) :
    ∃ text, condition.fragment = .ok text := by
  obtain ⟨operator, resolved⟩ := Option.isSome_iff_exists.mp valid
  exact ⟨_, by simp only [fragment, Operator.resolve, resolved]; rfl⟩

theorem fragment_of_invalid {condition : Condition} (invalid : condition.isValid = false) :
    condition.fragment = .error ⟨condition.operator⟩ := by
  have unresolved : Operator.ofToken? condition.operator = none := by simpa [isValid] using invalid
  simp only [fragment, Operator.resolve, unresolved]
  rfl

theorem checked_of_valid {condition : Condition} (valid : condition.isValid = true) :
    condition.checked = .ok condition := by
  obtain ⟨operator, resolved⟩ := Option.isSome_iff_exists.mp valid
  simp only [checked, Operator.resolve, resolved]
  rfl

theorem checked_of_invalid {condition : Condition} (invalid : condition.isValid = false) :
    condition.checked = .error ⟨condition.operator⟩ := by
  have unresolved : Operator.ofToken? condition.operator = none := by simpa [isValid] using invalid
  simp only [checked, Operator.resolve, unresolved]
  rfl

theorem fragments_of_valid {conditions : List Condition}
    (valid : ∀ c ∈ conditions, c.isValid = true) : ∃ text, fragments conditions = .ok text := by
  induction conditions with
  | nil => exact ⟨"", rfl⟩
  | cons condition rest ih =>
    obtain ⟨first, ok⟩ := fragment_of_valid (valid condition (by simp))
    obtain ⟨others, oks⟩ := ih fun c listed => valid c (by simp [listed])
    exact ⟨first ++ others, by simp only [fragments, ok, oks]; rfl⟩

/-- Of several invalid operators the first is told. -/
theorem fragments_of_firstInvalid {conditions : List Condition}
    (first : firstInvalid? conditions = some token) : fragments conditions = .error ⟨token⟩ := by
  induction conditions with
  | nil => simp [firstInvalid?] at first
  | cons condition rest ih =>
    rw [firstInvalid?_cons] at first
    cases valid : condition.isValid with
    | false =>
      obtain rfl : condition.operator = token := by simpa [valid] using first
      simp only [fragments, fragment_of_invalid valid]
      rfl
    | true =>
      obtain ⟨text, ok⟩ := fragment_of_valid valid
      simp only [fragments, ok, ih (by simpa [valid] using first)]
      rfl

end Condition

namespace ConditionSet

variable {query : ConditionSet}

/-- What stands in the place of an operator in the first condition without one, of the required
conditions and then of the alternatives. -/
def firstInvalid? (query : ConditionSet) : Option Value :=
  Condition.firstInvalid? (query.required ++ query.alternatives)

theorem filter_of_firstInvalid (first : query.firstInvalid? = some token) :
    query.filter = .error ⟨token⟩ := by
  have body : query.body = .error ⟨token⟩ := by
    rw [firstInvalid?, Condition.firstInvalid?_append] at first
    cases required : Condition.firstInvalid? query.required with
    | some other =>
      obtain rfl : other = token := by simpa [required] using first
      simp only [ConditionSet.body, Condition.fragments_of_firstInvalid required]
      rfl
    | none =>
      obtain ⟨text, ok⟩ :=
        Condition.fragments_of_valid (Condition.firstInvalid?_eq_none_iff.mp required)
      have alternatives : Condition.firstInvalid? query.alternatives = some token := by
        simpa [required] using first
      simp only [ConditionSet.body, ok, Condition.fragments_of_firstInvalid alternatives]
      rfl
  rw [filter, body]
  rfl

theorem filter_of_valid (none : query.firstInvalid? = none) : ∃ text, query.filter = .ok text := by
  have valid := Condition.firstInvalid?_eq_none_iff.mp none
  obtain ⟨required, requiredOk⟩ := Condition.fragments_of_valid fun c listed =>
    valid c (List.mem_append_left _ listed)
  obtain ⟨alternatives, alternativesOk⟩ := Condition.fragments_of_valid fun c listed =>
    valid c (List.mem_append_right _ listed)
  exact ⟨_, by simp only [filter, body, requiredOk, alternativesOk]; rfl⟩

theorem filter_eq_error_iff {e : InvalidOperator} :
    query.filter = .error e ↔ query.firstInvalid? = some e.token := by
  constructor
  · intro failed
    cases first : query.firstInvalid? with
    | none =>
      obtain ⟨text, ok⟩ := filter_of_valid first
      simp [failed] at ok
    | some token =>
      rw [filter_of_firstInvalid first] at failed
      obtain rfl := Except.error.inj failed
      rfl
  · exact filter_of_firstInvalid

variable {next : ConditionSet} {condition : Condition}

theorem verbatim_require (added : query.require condition = .ok next) : next.verbatim = query.verbatim := by
  obtain ⟨_, rfl⟩ := require_eq_ok_iff.mp added
  rfl

theorem verbatim_allow (added : query.allow condition = .ok next) : next.verbatim = query.verbatim := by
  obtain ⟨_, rfl⟩ := allow_eq_ok_iff.mp added
  rfl

/-- A condition that is added has a valid operator. -/
theorem firstInvalid?_require (added : query.require condition = .ok next)
    (valid : query.firstInvalid? = none) : next.firstInvalid? = none := by
  obtain ⟨fits, rfl⟩ := require_eq_ok_iff.mp added
  rw [firstInvalid?, Condition.firstInvalid?_eq_none_iff] at valid ⊢
  intro c listed
  simp only [List.mem_append, List.mem_singleton] at listed valid
  rcases listed with (there | rfl) | there
  · exact valid c (Or.inl there)
  · exact fits
  · exact valid c (Or.inr there)

theorem firstInvalid?_allow (added : query.allow condition = .ok next)
    (valid : query.firstInvalid? = none) : next.firstInvalid? = none := by
  obtain ⟨fits, rfl⟩ := allow_eq_ok_iff.mp added
  rw [firstInvalid?, Condition.firstInvalid?_eq_none_iff] at valid ⊢
  intro c listed
  simp only [List.mem_append, List.mem_singleton] at listed valid
  rcases listed with there | there | rfl
  · exact valid c (Or.inl there)
  · exact valid c (Or.inr there)
  · exact fits

end ConditionSet

end DirectoryQuery
