import DirectoryQuery.Operator

/-! A condition names an attribute, an operator and a value. It is kept as it was given: that its
operator is one is found out when it is written as a fragment, or by whoever checks it before. -/
namespace DirectoryQuery

structure Condition where
  field : Value
  operator : Value
  value : Value
  deriving Repr

namespace Condition

/-- The names of the three parts, as they are told. -/
def partNames : List String := ["field", "operator", "value"]

/-- A condition without a value is written with the empty text in its place. -/
def valueText : Value → String
  | .null => ""
  | value => value.shown

def fragment (condition : Condition) : Except InvalidOperator String :=
  (Operator.resolve condition.operator).map fun operator =>
    operator.fragment condition.field.shown (valueText condition.value)

/-- The fragments of several conditions, one after another, or the first invalid operator. -/
def fragments : List Condition → Except InvalidOperator String
  | [] => .ok ""
  | condition :: rest => do
    let first ← condition.fragment
    let others ← fragments rest
    return first ++ others

def described (condition : Condition) : String :=
  "Condition(field=" ++ condition.field.quoted ++ ", operator=" ++ condition.operator.quoted ++
    ", value=" ++ condition.value.quoted ++ ")"

def agrees (condition other : Condition) : Bool :=
  condition.field.agrees other.field && condition.operator.agrees other.operator &&
    condition.value.agrees other.value

/-- Accepts a condition whose operator is valid. -/
def checked (condition : Condition) : Except InvalidOperator Condition :=
  (Operator.resolve condition.operator).map fun _ => condition

end Condition

end DirectoryQuery
