import DirectoryQuery.ConditionSet
import DirectoryQuery.Envelope
import DirectoryQuery.Log

/-! The filter of a condition set: the verbatim fragments, the required conditions and the
alternatives, in this order. Several filters side by side need an envelope. It is a disjunction if the
set holds alternatives only, or one of them beside a single required condition; otherwise it is a
conjunction, in which the alternatives form a group of their own. -/
namespace DirectoryQuery.ConditionSet

/-- The whole query is one disjunction. -/
def isDisjunction (query : ConditionSet) : Bool :=
  1 < query.size && query.verbatim.isEmpty && !query.alternatives.isEmpty &&
    (query.required.isEmpty || (query.required.length == 1 && query.alternatives.length == 1))

/-- The alternatives beside other filters of a conjunction. -/
def group (query : ConditionSet) (alternatives : String) : String :=
  if 1 < query.size && !query.isDisjunction then Envelope.disjunction.around alternatives
  else alternatives

def envelope? (query : ConditionSet) : Option Envelope :=
  if query.nested || query.size ≤ 1 then none
  else if query.isDisjunction then some .disjunction
  else some .conjunction

/-- The filters of a query side by side, without an envelope. -/
def body (query : ConditionSet) : Except InvalidOperator String := do
  let required ← Condition.fragments query.required
  let alternatives ← Condition.fragments query.alternatives
  return Value.joined query.verbatim ++ required ++ query.group alternatives

theorem body_eq_ok_iff {query : ConditionSet} :
    query.body = .ok text ↔
      ∃ required alternatives, Condition.fragments query.required = .ok required ∧
        Condition.fragments query.alternatives = .ok alternatives ∧
        text = Value.joined query.verbatim ++ required ++ query.group alternatives := by
  unfold body
  cases Condition.fragments query.required <;> cases Condition.fragments query.alternatives <;>
    simp [bind, Except.bind, pure, Except.pure, eq_comm]

def filter (query : ConditionSet) : Except InvalidOperator String :=
  query.body.map fun body =>
    match query.envelope? with
    | some envelope => envelope.around body
    | none => body

/-- A filter is what stands side by side, in the envelope if there is one. -/
theorem filter_of_body {query : ConditionSet} (ok : query.body = .ok text) :
    query.filter = .ok (query.envelope?.elim text (·.around text)) := by
  rw [filter, ok]
  cases query.envelope? <;> rfl

theorem envelope?_eq_none_iff {query : ConditionSet} :
    query.envelope? = none ↔ query.nested = true ∨ query.size ≤ 1 := by
  unfold envelope?
  split
  · simp_all
  · split <;> simp_all

/-- The record of a filter that has been compiled. -/
def compiled (filter : String) : Log.Record :=
  ⟨Log.compiler, .debug, "Compiled LDAP filter: " ++ filter⟩

/-- What compiling a query leaves in the log. -/
def filterLog (query : ConditionSet) : List Log.Record :=
  match query.filter with
  | .ok filter => [compiled filter]
  | .error _ => []

end DirectoryQuery.ConditionSet
