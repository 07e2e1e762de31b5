import DirectoryQuery.Condition
import DirectoryQuery.Envelope
import DirectoryQuery.Proofs.SearchFilter.Grammar
import Mathlib.Data.List.Forall2

/-! The parts of a condition set, read back in the grammar of filters. A condition is clean if its
operator is valid, its field names an attribute and its value is escaped; where an operator looks at a
part of a value, there must be one. A clean condition is written as one filter. A verbatim fragment is
taken as it is, and has to be blank or one filter.

What each token asks of an entry is set down here on its own, token by token. It does not go through
the registry or the tables behind it, so the registry, the test of an operator and its sign are all
checked against it. -/
namespace DirectoryQuery

open SearchFilter

/-- The item that a test stands for. -/
def Test.reading (test : Test) (field value : List Char) : Item :=
  match test with
  | present => .presence field
  | equal => .comparison .equal field value
  | atLeast => .comparison .atLeast field value
  | atMost => .comparison .atMost field value
  | approximate => .comparison .approximate field value
  | startsWith => .substrings field value [] []
  | endsWith => .substrings field [] [] value
  | contains => .substrings field [] [value] []

/-- Looks at a part of the attribute's value only. -/
def Test.isPartial : Test → Bool
  | startsWith | endsWith | contains => true
  | _ => false

def Operator.reading (operator : Operator) (field value : List Char) : SearchFilter :=
  let positive := .item (operator.test.reading field value)
  if operator.negated then .neg positive else positive

namespace Operator

/-- The tokens that ask for an item. -/
inductive Affirms (field value : List Char) : String → Item → Prop
  | present : Affirms field value "*" (.presence field)
  | equal : Affirms field value "=" (.comparison .equal field value)
  | atLeast : Affirms field value ">=" (.comparison .atLeast field value)
  | atMost : Affirms field value "<=" (.comparison .atMost field value)
  | approximate : Affirms field value "~=" (.comparison .approximate field value)
  | startsWith : Affirms field value "starts_with" (.substrings field value [] [])
  | endsWith : Affirms field value "ends_with" (.substrings field [] [] value)
  | contains : Affirms field value "contains" (.substrings field [] [value] [])

/-- The tokens that deny what another one asks for. -/
inductive Denies : String → String → Prop
  | absent : Denies "!*" "*"
  | unequal : Denies "!=" "="
  | unequalShort : Denies "!" "="
  | notStartsWith : Denies "not_starts_with" "starts_with"
  | notEndsWith : Denies "not_ends_with" "ends_with"
  | notContains : Denies "not_contains" "contains"

/-- What a token asks of an entry. A denial is the negation of what the other token asks. -/
inductive Asks (field value : List Char) : String → SearchFilter → Prop
  | affirmed : Affirms field value token i → Asks field value token (.item i)
  | denied : Denies token other → Affirms field value other i →
      Asks field value token (.neg (.item i))

variable {field value : List Char}

theorem asks_of_mem_registry :
    ∀ entry ∈ registry, Asks field value entry.1 (entry.2.reading field value) := by
  simp only [registry, List.forall_mem_cons]
  exact ⟨.affirmed .present, .denied .absent .present, .affirmed .equal,
    .denied .unequalShort .equal, .denied .unequal .equal, .affirmed .atLeast, .affirmed .atMost,
    .affirmed .approximate, .affirmed .startsWith, .denied .notStartsWith .startsWith,
    .affirmed .endsWith, .denied .notEndsWith .endsWith, .affirmed .contains,
    .denied .notContains .contains, nofun⟩

theorem Affirms.lookup (affirms : Affirms field value token i) :
    ∃ operator, registry.lookup token = some operator ∧ operator.negated = false ∧
      operator.test.reading field value = i := by
  cases affirms <;> exact ⟨_, rfl, rfl, rfl⟩

/-- A token that denies another one is negated, and makes the same test. -/
theorem Denies.lookup (denies : Denies token other)
    (found : registry.lookup other = some operator) :
    ∃ negation, registry.lookup token = some negation ∧ negation.negated = true ∧
      negation.test = operator.test := by
  cases denies <;> cases found <;> exact ⟨_, rfl, rfl, rfl⟩

theorem Asks.lookup (asks : Asks field value token f) :
    ∃ operator, registry.lookup token = some operator ∧ operator.reading field value = f := by
  cases asks with
  | affirmed affirms =>
    obtain ⟨operator, found, affirmative, rfl⟩ := affirms.lookup
    exact ⟨operator, found, by simp [reading, affirmative]⟩
  | denied denies affirms =>
    obtain ⟨operator, found, _, rfl⟩ := affirms.lookup
    obtain ⟨negation, listed, negative, same⟩ := denies.lookup found
    exact ⟨negation, listed, by simp [reading, negative, same]⟩

theorem asks_iff : Asks field value token f ↔
    ∃ operator, registry.lookup token = some operator ∧ operator.reading field value = f := by
  refine ⟨Asks.lookup, ?_⟩
  rintro ⟨operator, found, rfl⟩
  obtain ⟨before, after, split, _⟩ := List.lookup_eq_some_iff.mp found
  exact asks_of_mem_registry (token, operator) (by simp [split])

end Operator

theorem Test.item_spelled (test : Test) {field value : String} (isField : Item.IsField field.toList)
    (isValue : Item.IsValue value.toList) (filled : test.isPartial = true → value ≠ "") :
    Item.Spelled (test.item field value).toList (test.reading field.toList value.toList) := by
  have compared (kind : Comparison) := @Item.Spelled.comparison _ _ kind isField isValue
  have starred (initial : List Char) (middle : List (List Char)) (final : List Char) :=
    @Item.Spelled.substrings field.toList initial final middle isField
  have filled (h : test.isPartial = true) : value.toList ≠ [] := by simpa using filled h
  cases test with
  | present => simpa [item, reading] using Item.Spelled.presence isField
  | equal => simpa [item, reading, Comparison.mark] using compared .equal
  | atLeast => simpa [item, reading, Comparison.mark] using compared .atLeast
  | atMost => simpa [item, reading, Comparison.mark] using compared .atMost
  | approximate => simpa [item, reading, Comparison.mark] using compared .approximate
  | startsWith =>
    have := starred value.toList [] [] (by simp [isValue, Item.IsValue.empty])
      (by simpa using filled rfl)
    simpa [item, reading, List.intercalate_cons_cons] using this
  | endsWith =>
    have := starred [] [] value.toList (by simp [isValue, Item.IsValue.empty])
      (by simpa using filled rfl)
    simpa [item, reading, List.intercalate_cons_cons] using this
  | contains =>
    have := starred [] [value.toList] [] (by simp [isValue, Item.IsValue.empty]) (by simp)
    simpa [item, reading, List.intercalate_cons_cons] using this

theorem Operator.fragment_spelled (operator : Operator) {field value : String}
    (isField : Item.IsField field.toList) (isValue : Item.IsValue value.toList)
    (filled : operator.test.isPartial = true → value ≠ "") :
    Spelled (operator.fragment field value).toList (operator.reading field.toList value.toList) := by
  have positive := Spelled.parenthesised (.item (operator.test.item_spelled isField isValue filled))
  cases h : operator.negated with
  | false => simpa [fragment, reading, h] using positive
  | true => simpa [fragment, reading, h] using Spelled.parenthesised (.neg positive)

namespace Condition

/-- A condition whose field and value are as the grammar wants them. -/
structure Clean (condition : Condition) : Prop where
  operator : ∃ operator, Operator.ofToken? condition.operator = some operator ∧
    (operator.test.isPartial = true → valueText condition.value ≠ "")
  field : Item.IsField condition.field.shown.toList
  value : Item.IsValue (valueText condition.value).toList

def reading? (condition : Condition) : Option SearchFilter :=
  (Operator.ofToken? condition.operator).map fun operator =>
    operator.reading condition.field.shown.toList (valueText condition.value).toList

/-- What a condition asks of an entry. Only one whose operator is the text of a token asks for
anything. -/
def Asks (condition : Condition) (f : SearchFilter) : Prop :=
  ∃ token, condition.operator = .text token ∧
    Operator.Asks condition.field.shown.toList (valueText condition.value).toList token f

theorem reading?_eq_some_iff {condition : Condition} :
    condition.reading? = some f ↔ condition.Asks f := by
  obtain ⟨field, operator, value⟩ := condition
  cases operator <;>
    simp [reading?, Asks, Operator.ofToken?, Operator.asks_iff, Option.map_eq_some_iff]

/-- The trees of the conditions that have a valid operator, in order. -/
def readings (conditions : List Condition) : List SearchFilter := conditions.filterMap reading?

@[simp] theorem readings_nil : readings [] = [] := rfl

theorem Clean.spelled {condition : Condition} (clean : condition.Clean) :
    ∃ text f, condition.fragment = .ok text ∧ condition.reading? = some f ∧
      Spelled text.toList f := by
  obtain ⟨operator, valid, filled⟩ := clean.operator
  refine ⟨_, _, ?_, ?_, operator.fragment_spelled clean.field clean.value filled⟩
  · simp [fragment, Operator.resolve, valid, Except.map]
  · simp [reading?, valid]

/-- A clean condition is written as the filter that it asks for, and as no other. -/
theorem Clean.spelled_iff {condition : Condition} (clean : condition.Clean) :
    ∃ text, condition.fragment = .ok text ∧ ∀ f, Spelled text.toList f ↔ condition.Asks f := by
  obtain ⟨text, g, written, read, spelled⟩ := clean.spelled
  refine ⟨text, written, fun f => ?_⟩
  rw [← reading?_eq_some_iff, read, Option.some_inj]
  constructor
  · exact spelled.unique
  · rintro rfl
    exact spelled

theorem clean_of_plain {field token value : String} (valid : (Operator.ofToken? (.text token)).isSome)
    (isField : Item.IsField field.toList) (plain : value.toList.all Item.isPlain = true)
    (filled : value ≠ "") : (⟨.text field, .text token, .text value⟩ : Condition).Clean := by
  obtain ⟨operator, resolved⟩ := Option.isSome_iff_exists.mp valid
  exact ⟨⟨operator, resolved, fun _ => filled⟩, isField, Item.isValue_of_plain plain⟩

/-- The trees of clean conditions are what they ask for, one by one. -/
theorem asks_readings {conditions : List Condition} (clean : ∀ c ∈ conditions, c.Clean) :
    List.Forall₂ Asks conditions (readings conditions) := by
  induction conditions with
  | nil => exact .nil
  | cons condition rest ih =>
    obtain ⟨_, f, _, read, _⟩ := (clean condition (by simp)).spelled
    have tail := ih fun c member => clean c (List.mem_cons_of_mem _ member)
    simpa [readings, read] using ⟨reading?_eq_some_iff.mp read, tail⟩

theorem length_readings {conditions : List Condition} (clean : ∀ c ∈ conditions, c.Clean) :
    (readings conditions).length = conditions.length :=
  (asks_readings clean).length_eq.symm

theorem readings_eq_nil_iff {conditions : List Condition} (clean : ∀ c ∈ conditions, c.Clean) :
    readings conditions = [] ↔ conditions = [] := by
  rw [← List.length_eq_zero_iff, length_readings clean, List.length_eq_zero_iff]

theorem fragments_run {conditions : List Condition} (clean : ∀ c ∈ conditions, c.Clean) :
    ∃ text, fragments conditions = .ok text ∧ Run text.toList (readings conditions) := by
  induction conditions with
  | nil => exact ⟨"", rfl, .nil⟩
  | cons condition rest ih =>
    obtain ⟨first, f, ok, read, spelled⟩ := (clean condition (by simp)).spelled
    obtain ⟨others, oks, run⟩ := ih fun c member => clean c (List.mem_cons_of_mem _ member)
    refine ⟨first ++ others, by simp [fragments, ok, oks, bind, Except.bind, pure, Except.pure], ?_⟩
    simpa [readings, read] using Run.cons spelled run

end Condition

/-- Verbatim fragments with the trees of those that are not blank, in order. -/
inductive Fragments : List Value → List SearchFilter → Prop
  | nil : Fragments [] []
  | blank {fragment : Value} {rest : List Value} : fragment.shown = "" → Fragments rest fs →
      Fragments (fragment :: rest) fs
  | filter {fragment : Value} {rest : List Value} : Spelled fragment.shown.toList f →
      Fragments rest fs → Fragments (fragment :: rest) (f :: fs)

namespace Fragments

variable {verbatim others : List Value} {fs gs : List SearchFilter}

theorem run (fragments : Fragments verbatim fs) : Run (Value.joined verbatim).toList fs := by
  induction fragments with
  | nil => exact .nil
  | blank blank _ ih => simpa [blank] using ih
  | filter spelled _ ih => simpa using Run.cons spelled ih

theorem length_le (fragments : Fragments verbatim fs) : fs.length ≤ verbatim.length := by
  induction fragments with
  | nil => exact Nat.le_refl 0
  | blank _ _ ih => exact Nat.le_succ_of_le ih
  | filter _ _ ih => exact Nat.succ_le_succ ih

theorem append (first : Fragments verbatim fs) (second : Fragments others gs) :
    Fragments (verbatim ++ others) (fs ++ gs) := by
  induction first with
  | nil => exact second
  | blank blank _ ih => exact .blank blank ih
  | filter spelled _ ih => exact .filter spelled ih

theorem cons_of_run {text : String} {tree : Option SearchFilter}
    (run : Run text.toList tree.toList) (rest : Fragments verbatim fs) :
    Fragments (.text text :: verbatim) (tree.toList ++ fs) := by
  cases tree with
  | none => exact .blank (by simpa using run_nil_iff.mp run) rest
  | some f => exact .filter (run_singleton_iff.mp run) rest

end Fragments

end DirectoryQuery
