import DirectoryQuery.Condition

/-! A condition set is a query under construction: conditions that must all hold, conditions of which
one must hold, and fragments that are taken over verbatim, each in the order in which they were
added. A nested set is part of a larger query, which supplies the envelope. -/
namespace DirectoryQuery

structure ConditionSet where
  required : List Condition
  alternatives : List Condition
  verbatim : List Value
  nested : Bool
  deriving Repr

namespace ConditionSet

def empty : ConditionSet := ⟨[], [], [], false⟩

def size (query : ConditionSet) : Nat :=
  query.required.length + query.alternatives.length + query.verbatim.length

def require (query : ConditionSet) (condition : Condition) :
    Except InvalidOperator ConditionSet :=
  condition.checked.map fun condition => { query with required := query.required ++ [condition] }

def allow (query : ConditionSet) (condition : Condition) :
    Except InvalidOperator ConditionSet :=
  condition.checked.map fun condition =>
    { query with alternatives := query.alternatives ++ [condition] }

def addVerbatim (query : ConditionSet) (fragments : List Value) : ConditionSet :=
  { query with verbatim := query.verbatim ++ fragments }

theorem require_eq_ok_iff {query next : ConditionSet} {condition : Condition} :
    query.require condition = .ok next ↔
      (Operator.ofToken? condition.operator).isSome ∧
        next = { query with required := query.required ++ [condition] } := by
  unfold require Condition.checked Operator.resolve
  cases Operator.ofToken? condition.operator <;> simp [Except.map, eq_comm]

theorem allow_eq_ok_iff {query next : ConditionSet} {condition : Condition} :
    query.allow condition = .ok next ↔
      (Operator.ofToken? condition.operator).isSome ∧
        next = { query with alternatives := query.alternatives ++ [condition] } := by
  unfold allow Condition.checked Operator.resolve
  cases Operator.ofToken? condition.operator <;> simp [Except.map, eq_comm]

def described (query : ConditionSet) : String :=
  let all (texts : List String) := "[" ++ String.intercalate ", " texts ++ "]"
  "ConditionSet(conjunctive=" ++ all (query.required.map Condition.described) ++
    ", disjunctive=" ++ all (query.alternatives.map Condition.described) ++
    ", raw=" ++ (Value.list query.verbatim).quoted ++
    ", nested=" ++ (Value.bool query.nested).quoted ++ ")"

def conditionsAgree : List Condition → List Condition → Bool
  | [], [] => true
  | x :: xs, y :: ys => x.agrees y && conditionsAgree xs ys
  | _, _ => false

def agrees (query other : ConditionSet) : Bool :=
  conditionsAgree query.required other.required &&
    conditionsAgree query.alternatives other.alternatives &&
    Value.itemsAgree query.verbatim other.verbatim && query.nested == other.nested

end ConditionSet

end DirectoryQuery
