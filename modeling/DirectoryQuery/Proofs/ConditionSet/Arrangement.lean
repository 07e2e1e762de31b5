import DirectoryQuery.Proofs.Condition.Clause
import DirectoryQuery.Proofs.ConditionSet.Reading

/-! Condition sets with the same filter. The text of a set on its own, without verbatim fragments, lays
out the clauses of its conditions in one of three ways, and both the way and the clauses can be read off
the text. So two sets have the same text only if their conditions tell the same clauses in the same
order. Beyond that the text shows where the alternatives begin, unless there is a single condition or
the whole set is a disjunction. -/
namespace DirectoryQuery

open Clause (spelled spelled_cut ends_nil ends_closing ends_opening)

theorem Envelope.toList_around {text : String} (filled : text ≠ "") (envelope : Envelope) :
    (envelope.around text).toList = envelope.opening.toList ++ (text.toList ++ [')']) := by
  simp [around, filled]

/-- The clauses of a set as its text lays them out. -/
inductive Arrangement
  | bare (clauses : List Clause)
  | disjunction (clauses : List Clause)
  | conjunction (required alternatives : List Clause)

namespace Arrangement

def clauses : Arrangement → List Clause
  | bare clauses | disjunction clauses => clauses
  | conjunction required alternatives => required ++ alternatives

/-- The alternatives of a conjunction. Where there are none, there is no group either. -/
def grouped : List Clause → List Char
  | [] => []
  | clause :: rest => '(' :: '|' :: (spelled (clause :: rest) ++ [')'])

def text : Arrangement → List Char
  | bare clauses => spelled clauses
  | disjunction clauses => '(' :: '|' :: (spelled clauses ++ [')'])
  | conjunction required alternatives =>
    '(' :: '&' :: (spelled required ++ (grouped alternatives ++ [')']))

@[simp] theorem grouped_eq_nil_iff {alternatives : List Clause} :
    grouped alternatives = [] ↔ alternatives = [] := by
  cases alternatives <;> simp [grouped]

theorem ne_empty_of_spelled {text : String} {clauses : List Clause}
    (same : text.toList = spelled clauses) (filled : clauses ≠ []) : text ≠ "" := by
  rw [Ne, ← String.toList_eq_nil_iff, same, Clause.spelled_eq_nil_iff]
  exact filled

theorem toList_disjunction {text : String} {clauses : List Clause}
    (same : text.toList = spelled clauses) (filled : clauses ≠ []) :
    (Envelope.disjunction.around text).toList = (disjunction clauses).text := by
  rw [Envelope.toList_around (ne_empty_of_spelled same filled), same]
  rfl

theorem toList_grouped {text : String} {alternatives : List Clause}
    (same : text.toList = spelled alternatives) :
    (Envelope.disjunction.around text).toList = grouped alternatives := by
  cases alternatives with
  | nil =>
    obtain rfl : text = "" := by simpa using same
    rfl
  | cons clause rest => exact toList_disjunction same (by simp)

theorem toList_conjunction {first second : String} {required alternatives : List Clause}
    (same : first.toList = spelled required) (same' : second.toList = spelled alternatives)
    (filled : required ++ alternatives ≠ []) :
    (Envelope.conjunction.around (first ++ Envelope.disjunction.around second)).toList =
      (conjunction required alternatives).text := by
  have inside : (first ++ Envelope.disjunction.around second).toList =
      spelled required ++ grouped alternatives := by
    rw [String.toList_append, same, toList_grouped same']
  have present : first ++ Envelope.disjunction.around second ≠ "" := by
    rw [Ne, ← String.toList_eq_nil_iff, inside]
    simpa using filled
  rw [Envelope.toList_around present, inside]
  simp [text, Envelope.opening]

theorem ends_grouped (alternatives : List Clause) (rest : List Char) :
    Clause.Ends (grouped alternatives ++ ')' :: rest) := by
  cases alternatives with
  | nil => exact ends_closing rest
  | cons clause others => exact ends_opening (by decide) _

theorem grouped_injective {alternatives others : List Clause}
    (delimited : ∀ c ∈ alternatives, c.Delimited) (delimited' : ∀ c ∈ others, c.Delimited)
    (same : grouped alternatives = grouped others) : alternatives = others := by
  cases alternatives with
  | nil =>
    cases others with
    | nil => rfl
    | cons => simp [grouped] at same
  | cons =>
    cases others with
    | nil => simp [grouped] at same
    | cons =>
      have inside := (List.cons.inj (List.cons.inj same).2).2
      exact (spelled_cut delimited delimited' (ends_closing []) (ends_closing []) inside).1

/-- Clauses without an envelope are no envelope. -/
theorem spelled_ne {clauses : List Clause} (delimited : ∀ c ∈ clauses, c.Delimited)
    (sign : c ∈ ['&', '|']) (rest : List Char) : spelled clauses ≠ '(' :: c :: rest := by
  intro same
  have cut : clauses = [] ∧ [] = '(' :: c :: rest :=
    spelled_cut delimited (by simp) ends_nil (ends_opening sign rest) (by simpa using same)
  simpa using cut.2

theorem text_injective {first second : Arrangement} (delimited : ∀ c ∈ first.clauses, c.Delimited)
    (delimited' : ∀ c ∈ second.clauses, c.Delimited) (same : first.text = second.text) :
    first = second := by
  cases first with
  | bare clauses =>
    cases second with
    | bare others =>
      have cut := spelled_cut delimited delimited' ends_nil ends_nil (congrArg (· ++ []) same)
      exact congrArg bare cut.1
    | disjunction others => exact absurd same (spelled_ne delimited (by decide) _)
    | conjunction required alternatives => exact absurd same (spelled_ne delimited (by decide) _)
  | disjunction clauses =>
    cases second with
    | bare others => exact absurd same.symm (spelled_ne delimited' (by decide) _)
    | disjunction others =>
      have inside := (List.cons.inj (List.cons.inj same).2).2
      have cut := spelled_cut delimited delimited' (ends_closing []) (ends_closing []) inside
      exact congrArg disjunction cut.1
    | conjunction required alternatives => simp [text] at same
  | conjunction required alternatives =>
    cases second with
    | bare others => exact absurd same.symm (spelled_ne delimited' (by decide) _)
    | disjunction others => simp [text] at same
    | conjunction required' alternatives' =>
      simp only [clauses, List.mem_append] at delimited delimited'
      have inside := (List.cons.inj (List.cons.inj same).2).2
      obtain ⟨rfl, groups⟩ := spelled_cut (fun c listed => delimited c (Or.inl listed))
        (fun c listed => delimited' c (Or.inl listed)) (ends_grouped _ []) (ends_grouped _ []) inside
      rw [grouped_injective (fun c listed => delimited c (Or.inr listed))
        (fun c listed => delimited' c (Or.inr listed)) (List.append_cancel_right groups)]

end Arrangement

namespace ConditionSet

open Condition (fragments_spelled)

/-- A set on its own, without verbatim fragments, whose conditions are all delimited. -/
structure Delimited (query : ConditionSet) : Prop where
  alone : query.nested = false
  bare : query.verbatim = []
  required : ∀ c ∈ query.required, c.Delimited
  alternatives : ∀ c ∈ query.alternatives, c.Delimited

/-- The clauses of the conditions, the required ones first. -/
def clauses (query : ConditionSet) : List Clause :=
  Condition.clauses (query.required ++ query.alternatives)

theorem clauses_eq_append (query : ConditionSet) : query.clauses =
    Condition.clauses query.required ++ Condition.clauses query.alternatives :=
  List.filterMap_append

def arrangement (query : ConditionSet) : Arrangement :=
  if query.size ≤ 1 then .bare query.clauses
  else if query.Collapses then .disjunction query.clauses
  else .conjunction (Condition.clauses query.required) (Condition.clauses query.alternatives)

variable {query p q : ConditionSet}

theorem clauses_arrangement (query : ConditionSet) : query.arrangement.clauses = query.clauses := by
  unfold arrangement
  split
  · rfl
  · split
    · rfl
    · exact query.clauses_eq_append.symm

theorem Delimited.size (delimited : query.Delimited) :
    query.size = query.required.length + query.alternatives.length := by
  simp [ConditionSet.size, delimited.bare]

theorem Delimited.clauses (delimited : query.Delimited) : ∀ c ∈ query.clauses, c.Delimited := by
  obtain ⟨_, _, _, _, required⟩ := fragments_spelled delimited.required
  obtain ⟨_, _, _, _, alternatives⟩ := fragments_spelled delimited.alternatives
  intro c listed
  rw [clauses_eq_append, List.mem_append] at listed
  exact listed.elim (required c) (alternatives c)

theorem Delimited.length_required (delimited : query.Delimited) :
    (Condition.clauses query.required).length = query.required.length := by
  obtain ⟨_, _, _, length, _⟩ := fragments_spelled delimited.required
  exact length

theorem Delimited.length_alternatives (delimited : query.Delimited) :
    (Condition.clauses query.alternatives).length = query.alternatives.length := by
  obtain ⟨_, _, _, length, _⟩ := fragments_spelled delimited.alternatives
  exact length

theorem Delimited.length_clauses (delimited : query.Delimited) :
    query.clauses.length = query.size := by
  rw [clauses_eq_append, List.length_append, delimited.length_required,
    delimited.length_alternatives, delimited.size]

/-- The text of a set is that of its arrangement. -/
theorem filter_arranged (delimited : query.Delimited) :
    ∃ text, query.filter = .ok text ∧ text.toList = query.arrangement.text := by
  obtain ⟨required, requiredOk, requiredText, _⟩ := fragments_spelled delimited.required
  obtain ⟨alternatives, alternativesOk, alternativesText, _⟩ :=
    fragments_spelled delimited.alternatives
  have body : query.body = .ok (required ++ query.group alternatives) := by
    simp [ConditionSet.body, requiredOk, alternativesOk, delimited.bare, bind, Except.bind, pure,
      Except.pure]
  have together : (required ++ alternatives).toList = spelled query.clauses := by
    simp [clauses_eq_append, requiredText, alternativesText]
  refine ⟨_, by rw [filter, body]; rfl, ?_⟩
  rcases Nat.lt_or_ge 1 query.size with several | single
  · have filled : query.clauses ≠ [] := by
      apply List.ne_nil_of_length_pos
      rw [delimited.length_clauses]
      omega
    have several' : ¬query.size ≤ 1 := Nat.not_le.mpr several
    by_cases collapses : query.Collapses
    · have disjunction := query.isDisjunction_iff.mpr collapses
      have envelope : query.envelope? = some .disjunction := by
        simp [envelope?, delimited.alone, several', disjunction]
      simpa [envelope, group, several, disjunction, arrangement, several', collapses] using
        Arrangement.toList_disjunction together filled
    · have other : query.isDisjunction = false :=
        Bool.eq_false_iff.mpr (mt query.isDisjunction_iff.mp collapses)
      have envelope : query.envelope? = some .conjunction := by
        simp [envelope?, delimited.alone, several', other]
      simpa [envelope, group, several, other, arrangement, several', collapses] using
        Arrangement.toList_conjunction requiredText alternativesText
          (query.clauses_eq_append ▸ filled)
  · simpa [envelope?, single, group, Nat.not_lt.mpr single, arrangement, Arrangement.text] using
      together

/-- Whether a set collapses depends on the numbers of its conditions alone. -/
theorem Delimited.collapses_iff (delimited : query.Delimited) : query.Collapses ↔
    1 < query.required.length + query.alternatives.length ∧ query.alternatives.length ≠ 0 ∧
      (query.required.length = 0 ∨
        query.required.length = 1 ∧ query.alternatives.length = 1) := by
  simp [Collapses, delimited.size, delimited.bare, List.length_eq_zero_iff]

/-- Beside its clauses, an arrangement shows where the alternatives begin, or does not and then is of
the same kind. -/
theorem arrangement_eq_iff (first : p.Delimited) (second : q.Delimited) :
    p.arrangement = q.arrangement ↔ p.clauses = q.clauses ∧
      (p.required.length = q.required.length ∨ p.size ≤ 1 ∧ q.size ≤ 1 ∨
        p.Collapses ∧ q.Collapses) := by
  constructor
  · intro same
    have clauses : p.clauses = q.clauses := by
      rw [← clauses_arrangement, ← clauses_arrangement, same]
    refine ⟨clauses, ?_⟩
    have sizes : p.size = q.size := by
      rw [← first.length_clauses, ← second.length_clauses, clauses]
    by_cases single : p.size ≤ 1
    · exact Or.inr (Or.inl ⟨single, sizes ▸ single⟩)
    · have several : ¬q.size ≤ 1 := sizes ▸ single
      by_cases collapses : p.Collapses
      · by_cases collapses' : q.Collapses
        · exact Or.inr (Or.inr ⟨collapses, collapses'⟩)
        · simp [arrangement, single, several, collapses, collapses'] at same
      · by_cases collapses' : q.Collapses
        · simp [arrangement, single, several, collapses, collapses'] at same
        · simp only [arrangement, single, several, collapses, collapses', if_false,
            Arrangement.conjunction.injEq] at same
          left
          rw [← first.length_required, ← second.length_required, same.1]
  · rintro ⟨clauses, required | ⟨single, single'⟩ | ⟨collapses, collapses'⟩⟩
    · have sizes : p.size = q.size := by
        rw [← first.length_clauses, ← second.length_clauses, clauses]
      have alternatives : p.alternatives.length = q.alternatives.length := by
        rw [first.size, second.size] at sizes
        omega
      have collapses : p.Collapses ↔ q.Collapses := by
        rw [first.collapses_iff, second.collapses_iff, required, alternatives]
      have parts := clauses
      rw [clauses_eq_append, clauses_eq_append] at parts
      obtain ⟨required, alternatives⟩ := List.append_inj parts
        (by rw [first.length_required, second.length_required, required])
      simp only [arrangement, sizes, clauses, collapses, required, alternatives]
    · simp only [arrangement, if_pos single, if_pos single', clauses]
    · have several := Nat.not_le.mpr collapses.1
      have several' := Nat.not_le.mpr collapses'.1
      simp only [arrangement, if_neg several, if_neg several', if_pos collapses, if_pos collapses',
        clauses]

/-- Two sets have the same filter exactly if their conditions tell the same clauses in the same order,
and as many of them are required, or each holds one condition at most, or each is a disjunction. -/
theorem filter_eq_iff (first : p.Delimited) (second : q.Delimited) :
    ∃ text other, p.filter = .ok text ∧ q.filter = .ok other ∧
      (text = other ↔ p.clauses = q.clauses ∧
        (p.required.length = q.required.length ∨ p.size ≤ 1 ∧ q.size ≤ 1 ∨
          p.Collapses ∧ q.Collapses)) := by
  obtain ⟨text, ok, spelling⟩ := filter_arranged first
  obtain ⟨other, ok', spelling'⟩ := filter_arranged second
  refine ⟨text, other, ok, ok', ?_⟩
  rw [← arrangement_eq_iff first second, ← String.toList_inj, spelling, spelling']
  constructor
  · apply Arrangement.text_injective
    · rw [clauses_arrangement]
      exact first.clauses
    · rw [clauses_arrangement]
      exact second.clauses
  · exact congrArg Arrangement.text

/-- A required condition and an alternative. -/
def besideAlternative : ConditionSet where
  required := [⟨.text "a", .text "!", .null⟩]
  alternatives := [⟨.text "b", .text "*", .text "x"⟩]
  verbatim := []
  nested := false

/-- The same two conditions, written with other tokens and values that are not looked at. -/
def bothAlternatives : ConditionSet where
  required := []
  alternatives := [⟨.text "a", .text "!=", .text ""⟩, ⟨.text "b", .text "*", .null⟩]
  verbatim := []
  nested := false

def bothRequired : ConditionSet where
  required := bothAlternatives.alternatives
  alternatives := []
  verbatim := []
  nested := false

theorem besideAlternative_delimited : besideAlternative.Delimited := by
  refine ⟨rfl, rfl, ?_, ?_⟩
  · intro c listed
    obtain rfl := List.mem_singleton.mp listed
    exact ⟨⟨.unequal, rfl, by decide⟩, by simp [Test.isPunctuation],
      by simp [Condition.valueText, Item.isStructural]⟩
  · intro c listed
    obtain rfl := List.mem_singleton.mp listed
    exact ⟨⟨.present, rfl, by decide⟩, by simp [Test.isPunctuation],
      by simp [Condition.valueText, Item.isStructural]⟩

theorem bothAlternatives_delimited : ∀ c ∈ bothAlternatives.alternatives, c.Delimited := by
  intro c listed
  simp only [bothAlternatives, List.mem_cons, List.not_mem_nil, or_false] at listed
  rcases listed with rfl | rfl
  · exact ⟨⟨.unequal, rfl, by decide⟩, by simp [Test.isPunctuation],
      by simp [Condition.valueText, Item.isStructural]⟩
  · exact ⟨⟨.present, rfl, by decide⟩, by simp [Test.isPunctuation],
      by simp [Condition.valueText, Item.isStructural]⟩

theorem besideAlternative_filter :
    (besideAlternative.Delimited ∧ bothAlternatives.Delimited ∧ bothRequired.Delimited) ∧
      besideAlternative.filter = .ok "(|(!(a=))(b=*))" ∧
      bothAlternatives.filter = besideAlternative.filter ∧
      bothRequired.filter ≠ besideAlternative.filter := by
  have alternatives : bothAlternatives.Delimited :=
    ⟨rfl, rfl, by simp [bothAlternatives], bothAlternatives_delimited⟩
  have required : bothRequired.Delimited :=
    ⟨rfl, rfl, bothAlternatives_delimited, by simp [bothRequired]⟩
  refine ⟨⟨besideAlternative_delimited, alternatives, required⟩, rfl, ?_, ?_⟩
  · obtain ⟨text, other, ok, ok', same⟩ := filter_eq_iff alternatives besideAlternative_delimited
    rw [ok, ok', same.mpr ⟨by decide, Or.inr (Or.inr ⟨by decide, by decide⟩)⟩]
  · obtain ⟨text, other, ok, ok', same⟩ := filter_eq_iff required besideAlternative_delimited
    rw [ok, ok']
    intro equal
    obtain ⟨_, lengths⟩ := same.mp (Except.ok.inj equal)
    exact absurd lengths (by decide)

end ConditionSet

end DirectoryQuery
