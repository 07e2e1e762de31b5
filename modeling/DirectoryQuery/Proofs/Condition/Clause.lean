import DirectoryQuery.Proofs.Condition.Reading

/-! Conditions told apart by their fragments. A clause is what the fragment of a condition tells: the
field, the operator, and the value where the operator looks at one. Fields and values need not be those
of a filter that a directory takes; it is enough that no field holds a character of the punctuation and
no value a parenthesis or an asterisk. Then fragments can be cut off the front of a text one after
another, and each tells its clause. -/
namespace DirectoryQuery

/-! An item is its field, a mark for the kind of comparison, an equals sign, and pieces of the value
between asterisks. -/

namespace Test

/-- What stands between the field and the equals sign. -/
def mark : Test → List Char
  | atLeast => ['>']
  | atMost => ['<']
  | approximate => ['~']
  | _ => []

/-- The pieces between the asterisks behind the equals sign. -/
def pieces (test : Test) (value : List Char) : List (List Char) :=
  match test with
  | present => [[], []]
  | startsWith => [value, []]
  | endsWith => [[], value]
  | contains => [[], value, []]
  | _ => [value]

theorem toList_item (test : Test) (field value : String) :
    (test.item field value).toList = field.toList ++
      (test.mark ++ '=' :: ['*'].intercalate (test.pieces value.toList)) := by
  cases test <;> simp [item, mark, pieces, List.intercalate_cons_cons]

theorem pieces_ne_nil (test : Test) (value : List Char) : test.pieces value ≠ [] := by
  cases test <;> simp [pieces]

theorem not_mem_pieces {value : List Char} (absent : '*' ∉ value) (test : Test) :
    ∀ piece ∈ test.pieces value, '*' ∉ piece := by
  cases test <;> simp [pieces, absent]

/-- The pieces are found again between the asterisks. -/
theorem splitOn_pieces {value : List Char} (absent : '*' ∉ value) (test : Test) :
    (['*'].intercalate (test.pieces value)).splitOn '*' = test.pieces value :=
  List.splitOn_intercalate _ (not_mem_pieces absent test) (test.pieces_ne_nil value)

/-- The characters that a field may not hold if it is to end where its item says. -/
def isPunctuation (c : Char) : Bool :=
  ['(', ')', '=', '<', '>', '~', '!', '&', '|'].contains c

theorem mark_punctuation (test : Test) (rest : List Char) :
    ∃ c after, test.mark ++ '=' :: rest = c :: after ∧ isPunctuation c = true ∧
      c ∉ ['(', ')', '!', '&', '|'] := by
  cases test
  case atLeast => exact ⟨'>', '=' :: rest, rfl, rfl, by decide⟩
  case atMost => exact ⟨'<', '=' :: rest, rfl, rfl, by decide⟩
  case approximate => exact ⟨'~', '=' :: rest, rfl, rfl, by decide⟩
  all_goals exact ⟨'=', rest, rfl, rfl, by decide⟩

theorem mark_cut {test other : Test} {text rest : List Char}
    (same : test.mark ++ '=' :: text = other.mark ++ '=' :: rest) :
    test.mark = other.mark ∧ text = rest := by
  cases test <;> cases other <;> simp_all [mark]

/-- The mark and the pieces tell the test, since a part that is looked at is not empty. -/
theorem eq_of_pieces {test other : Test} {v w : List Char} (marks : test.mark = other.mark)
    (same : test.pieces v = other.pieces w) (filled : test.isPartial = true → v ≠ [])
    (filled' : other.isPartial = true → w ≠ []) (unread : test = .present → v = [])
    (unread' : other = .present → w = []) : test = other ∧ v = w := by
  cases test <;> cases other <;> simp_all [mark, pieces, isPartial]

end Test

@[ext]
structure Clause where
  field : String
  operator : Operator
  value : String
  deriving DecidableEq, Repr

namespace Clause

def item (clause : Clause) : List Char :=
  (clause.operator.test.item clause.field clause.value).toList

def text (clause : Clause) : List Char :=
  (clause.operator.fragment clause.field clause.value).toList

/-- No part of the clause can be taken for the punctuation around it, and there is a value exactly
where one is looked at. -/
structure Delimited (clause : Clause) : Prop where
  field : ∀ c ∈ clause.field.toList, Test.isPunctuation c = false
  value : ∀ c ∈ clause.value.toList, Item.isStructural c = false
  filled : clause.operator.test.isPartial = true → clause.value ≠ ""
  unread : clause.operator.test = .present → clause.value = ""

theorem text_positive {clause : Clause} (positive : clause.operator.negated = false) :
    clause.text = '(' :: (clause.item ++ [')']) := by
  simp [text, item, Operator.fragment, positive]

theorem text_negated {clause : Clause} (negated : clause.operator.negated = true) :
    clause.text = '(' :: '!' :: '(' :: (clause.item ++ [')', ')']) := by
  simp [text, item, Operator.fragment, negated]

end Clause

/-- An operator is its test, negated or not. -/
theorem Operator.eq_of_test {operator other : Operator} (test : operator.test = other.test)
    (negated : operator.negated = other.negated) : operator = other := by
  revert test negated
  cases operator <;> cases other <;> decide

namespace Clause.Delimited

variable {clause other : Clause}

theorem not_mem_value (delimited : clause.Delimited) (structural : Item.isStructural c = true) :
    c ∉ clause.value.toList := by
  intro member
  have := delimited.value c member
  simp [structural] at this

/-- The field is what stands in front of the punctuation. -/
theorem takeWhile_item (delimited : clause.Delimited) :
    clause.item.takeWhile (!Test.isPunctuation ·) = clause.field.toList := by
  obtain ⟨c, after, tail, punctuation, _⟩ := clause.operator.test.mark_punctuation
    (['*'].intercalate (clause.operator.test.pieces clause.value.toList))
  rw [item, Test.toList_item, tail, List.takeWhile_append_of_pos (by simpa using delimited.field)]
  simp [punctuation]

theorem not_mem_item (delimited : clause.Delimited) : ')' ∉ clause.item := by
  have noField : ')' ∉ clause.field.toList := fun member =>
    absurd (delimited.field _ member) (by decide)
  have noMark : ')' ∉ clause.operator.test.mark := by
    cases clause.operator.test <;> simp [Test.mark]
  have noPiece : ')' ∉ ['*'].intercalate (clause.operator.test.pieces clause.value.toList) := by
    have noValue : ')' ∉ clause.value.toList := delimited.not_mem_value rfl
    intro member
    rcases Item.mem_intercalate member with same | ⟨piece, listed, inside⟩
    · simp at same
    · cases h : clause.operator.test <;> simp_all [Test.pieces]
  rw [item, Test.toList_item]
  simp [noField, noMark, noPiece]

/-- No item starts like a negation, a group or an envelope. -/
theorem item_ne (delimited : clause.Delimited) (sign : c ∈ ['(', ')', '!', '&', '|'])
    (after rest : List Char) : clause.item ++ after ≠ c :: rest := by
  intro same
  rw [item, Test.toList_item] at same
  cases field : clause.field.toList with
  | nil =>
    obtain ⟨d, tail, start, _, other⟩ := clause.operator.test.mark_punctuation
      (['*'].intercalate (clause.operator.test.pieces clause.value.toList))
    rw [field, start] at same
    obtain rfl : d = c := (List.cons.inj same).1
    exact other sign
  | cons d tail =>
    rw [field] at same
    obtain rfl : d = c := (List.cons.inj same).1
    have outside : Test.isPunctuation d = false := delimited.field d (by simp [field])
    simp only [List.mem_cons, List.not_mem_nil, or_false] at sign
    rcases sign with rfl | rfl | rfl | rfl | rfl <;> simp [Test.isPunctuation] at outside

theorem item_injective (first : clause.Delimited) (second : other.Delimited)
    (same : clause.item = other.item) :
    clause.operator.test = other.operator.test ∧ clause.field = other.field ∧
      clause.value = other.value := by
  have fields : clause.field = other.field := by
    rw [← String.toList_inj, ← first.takeWhile_item, ← second.takeWhile_item, same]
  simp only [item, Test.toList_item, fields] at same
  obtain ⟨marks, texts⟩ := Test.mark_cut (List.append_cancel_left same)
  have pieces : clause.operator.test.pieces clause.value.toList =
      other.operator.test.pieces other.value.toList := by
    rw [← Test.splitOn_pieces (first.not_mem_value rfl), texts,
      Test.splitOn_pieces (second.not_mem_value rfl)]
  obtain ⟨tests, values⟩ := Test.eq_of_pieces marks pieces
    (by simpa using first.filled) (by simpa using second.filled)
    (by simpa using first.unread) (by simpa using second.unread)
  exact ⟨tests, fields, String.toList_inj.mp values⟩

/-- Clauses with the same text are the same, whatever follows them. -/
theorem cut (first : clause.Delimited) (second : other.Delimited)
    (same : clause.text ++ rest = other.text ++ rest') : clause = other ∧ rest = rest' := by
  have whole (negated : clause.operator.negated = other.operator.negated)
      (items : clause.item = other.item) : clause = other := by
    obtain ⟨tests, fields, values⟩ := first.item_injective second items
    exact Clause.ext fields (Operator.eq_of_test tests negated) values
  cases negated : clause.operator.negated with
  | false =>
    cases negated' : other.operator.negated with
    | false =>
      rw [text_positive negated, text_positive negated'] at same
      obtain ⟨items, rests⟩ := Item.cut_at first.not_mem_item second.not_mem_item
        (by simpa using same)
      exact ⟨whole (negated.trans negated'.symm) items, rests⟩
    | true =>
      rw [text_positive negated, text_negated negated'] at same
      exact absurd (by simpa using same) (first.item_ne (c := '!') (by decide) _ _)
  | true =>
    cases negated' : other.operator.negated with
    | false =>
      rw [text_negated negated, text_positive negated'] at same
      exact absurd (by simpa using same.symm) (second.item_ne (c := '!') (by decide) _ _)
    | true =>
      rw [text_negated negated, text_negated negated'] at same
      obtain ⟨items, rests⟩ := Item.cut_at first.not_mem_item second.not_mem_item
        (by simpa using same)
      exact ⟨whole (negated.trans negated'.symm) items, by simpa using rests⟩

/-- No clause starts like a group or an envelope. -/
theorem text_ne (delimited : clause.Delimited) (sign : c ∈ ['&', '|']) (after rest : List Char) :
    clause.text ++ after ≠ '(' :: c :: rest := by
  intro same
  cases negated : clause.operator.negated with
  | false =>
    rw [text_positive negated] at same
    exact delimited.item_ne (List.mem_of_mem_drop (i := 3) (by simpa using sign)) _ _
      (by simpa using same)
  | true =>
    rw [text_negated negated] at same
    obtain rfl : '!' = c := by simpa using (List.cons.inj (List.cons.inj same).2).1
    simp at sign

end Clause.Delimited

/-! A list of clauses, written one after another. -/

namespace Clause

def spelled (clauses : List Clause) : List Char := clauses.flatMap text

@[simp] theorem spelled_nil : spelled [] = [] := rfl

@[simp] theorem spelled_cons (clause : Clause) (rest : List Clause) :
    spelled (clause :: rest) = clause.text ++ spelled rest := rfl

@[simp] theorem spelled_append (clauses others : List Clause) :
    spelled (clauses ++ others) = spelled clauses ++ spelled others := List.flatMap_append

/-- No clause stands at the front of the text. -/
def Ends (text : List Char) : Prop :=
  ∀ clause : Clause, clause.Delimited → ∀ rest, clause.text ++ rest ≠ text

theorem text_head (clause : Clause) : ∃ rest, clause.text = '(' :: rest := by
  cases negated : clause.operator.negated with
  | false => exact ⟨_, text_positive negated⟩
  | true => exact ⟨_, text_negated negated⟩

@[simp] theorem spelled_eq_nil_iff {clauses : List Clause} : spelled clauses = [] ↔ clauses = [] := by
  cases clauses with
  | nil => simp
  | cons clause rest =>
    obtain ⟨tail, start⟩ := clause.text_head
    simp [start]

theorem ends_nil : Ends [] := by
  intro clause _ rest same
  obtain ⟨tail, start⟩ := clause.text_head
  simp [start] at same

theorem ends_closing (rest : List Char) : Ends (')' :: rest) := by
  intro clause _ after same
  obtain ⟨tail, start⟩ := clause.text_head
  simp [start] at same

theorem ends_opening (sign : c ∈ ['&', '|']) (rest : List Char) : Ends ('(' :: c :: rest) :=
  fun _ delimited after => delimited.text_ne sign after rest

/-- Clauses are read off one after another, up to where none stands. -/
theorem spelled_cut {clauses others : List Clause} (delimited : ∀ c ∈ clauses, c.Delimited)
    (delimited' : ∀ c ∈ others, c.Delimited) (ends : Ends rest) (ends' : Ends rest')
    (same : spelled clauses ++ rest = spelled others ++ rest') : clauses = others ∧ rest = rest' := by
  induction clauses generalizing others with
  | nil =>
    cases others with
    | nil => exact ⟨rfl, same⟩
    | cons other others =>
      have first := delimited' other (by simp)
      exact absurd (by simpa using same.symm) (ends other first (spelled others ++ rest'))
  | cons clause clauses ih =>
    have first := delimited clause (by simp)
    cases others with
    | nil => exact absurd (by simpa using same) (ends' clause first (spelled clauses ++ rest))
    | cons other others =>
      have second := delimited' other (by simp)
      simp only [spelled_cons, List.append_assoc] at same
      obtain ⟨rfl, tails⟩ := first.cut second same
      obtain ⟨rfl, rests⟩ := ih (fun c listed => delimited c (by simp [listed]))
        (fun c listed => delimited' c (by simp [listed])) tails
      exact ⟨rfl, rests⟩

end Clause

namespace Condition

/-- The clause of a condition that has a valid operator. A test for presence looks at no value. -/
def clause? (condition : Condition) : Option Clause :=
  (Operator.ofToken? condition.operator).map fun operator =>
    ⟨condition.field.shown, operator,
      if operator.test = .present then "" else valueText condition.value⟩

/-- The clauses of the conditions that have a valid operator, in order. -/
def clauses (conditions : List Condition) : List Clause := conditions.filterMap clause?

/-- A condition with a valid operator of which no part can be taken for punctuation. -/
structure Delimited (condition : Condition) : Prop where
  operator : ∃ operator, Operator.ofToken? condition.operator = some operator ∧
    (operator.test.isPartial = true → valueText condition.value ≠ "")
  field : ∀ c ∈ condition.field.shown.toList, Test.isPunctuation c = false
  value : ∀ c ∈ (valueText condition.value).toList, Item.isStructural c = false

theorem Delimited.clause {condition : Condition} (delimited : condition.Delimited) :
    ∃ text clause, condition.fragment = .ok text ∧ condition.clause? = some clause ∧
      clause.Delimited ∧ text.toList = clause.text := by
  obtain ⟨operator, valid, filled⟩ := delimited.operator
  refine ⟨operator.fragment condition.field.shown (valueText condition.value),
    ⟨condition.field.shown, operator,
      if operator.test = .present then "" else valueText condition.value⟩, ?_, ?_, ?_, ?_⟩
  · simp [fragment, Operator.resolve, valid, Except.map]
  · simp [clause?, valid]
  · by_cases present : operator.test = .present
    · exact ⟨delimited.field, by simp [present], by simp [present, Test.isPartial], by simp [present]⟩
    · exact ⟨delimited.field, by simpa [present] using delimited.value, by simpa [present] using filled,
        by simp [present]⟩
  · by_cases present : operator.test = .present
    · simp [Clause.text, Operator.fragment, Test.item, present]
    · simp [Clause.text, present]

theorem fragments_spelled {conditions : List Condition} (delimited : ∀ c ∈ conditions, c.Delimited) :
    ∃ text, fragments conditions = .ok text ∧ text.toList = Clause.spelled (clauses conditions) ∧
      (clauses conditions).length = conditions.length ∧ ∀ c ∈ clauses conditions, c.Delimited := by
  induction conditions with
  | nil => exact ⟨"", rfl, rfl, rfl, by simp [clauses]⟩
  | cons condition rest ih =>
    obtain ⟨first, clause, ok, told, whole, same⟩ := (delimited condition (by simp)).clause
    obtain ⟨others, oks, sames, lengths, wholes⟩ :=
      ih fun c listed => delimited c (List.mem_cons_of_mem _ listed)
    have list : clauses (condition :: rest) = clause :: clauses rest := by simp [clauses, told]
    refine ⟨first ++ others, by simp [fragments, ok, oks, bind, Except.bind, pure, Except.pure],
      ?_, by simp [list, lengths], ?_⟩
    · simp [list, same, sames]
    · simpa [list] using ⟨whole, wholes⟩

end Condition

end DirectoryQuery
