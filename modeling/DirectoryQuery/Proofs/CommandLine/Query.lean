import DirectoryQuery.CommandLine.Query
import DirectoryQuery.Proofs.ConditionSet.Validity
import Mathlib.Data.List.Forall2

/-! The query that a request describes. Its groups are added one after another, so that what every added
condition keeps is kept, and the query has a filter in the end. Groups that describe conditions with valid
operators are all added, in their order. A configured filter is one more verbatim fragment of the query,
the first. -/
namespace DirectoryQuery

namespace ConditionSet

/-- More conditions, where a switch puts them. -/
def withConditions (query : ConditionSet) (switch : CommandLine.Switch)
    (conditions : List Condition) : ConditionSet :=
  match switch with
  | .required => { query with required := query.required ++ conditions }
  | .alternative => { query with alternatives := query.alternatives ++ conditions }
  | _ => query

@[simp] theorem withConditions_nil (query : ConditionSet) (switch : CommandLine.Switch) :
    query.withConditions switch [] = query := by
  cases switch <;> simp [withConditions]

theorem withConditions_append (query : ConditionSet) (switch : CommandLine.Switch)
    (conditions others : List Condition) :
    (query.withConditions switch conditions).withConditions switch others =
      query.withConditions switch (conditions ++ others) := by
  cases switch <;> simp [withConditions]

/-- Puts a fragment before the other verbatim ones. -/
def precede (fragment : Value) (query : ConditionSet) : ConditionSet :=
  { query with verbatim := fragment :: query.verbatim }

theorem require_precede (fragment : Value) (query : ConditionSet) (condition : Condition) :
    (query.precede fragment).require condition =
      (query.require condition).map (precede fragment) := by
  unfold require
  cases condition.checked <;> rfl

theorem allow_precede (fragment : Value) (query : ConditionSet) (condition : Condition) :
    (query.precede fragment).allow condition = (query.allow condition).map (precede fragment) := by
  unfold allow
  cases condition.checked <;> rfl

end ConditionSet

namespace CommandLine

/-- What every added condition keeps, the groups of a switch keep. -/
theorem addGroups_keeps {switch : Switch} {P : ConditionSet → Prop}
    {add : ConditionSet → Condition → Except InvalidOperator ConditionSet}
    (keeps : ∀ query condition next, add query condition = .ok next → P query → P next)
    {groups : List (List String)} {query next : ConditionSet}
    (added : addGroups switch add query groups = .ok next) (holds : P query) : P next := by
  induction groups generalizing query with
  | nil =>
    obtain rfl : query = next := Except.ok.inj added
    exact holds
  | cons group rest ih =>
    unfold addGroups at added
    split at added
    · contradiction
    · split at added
      · contradiction
      · rename_i later step
        exact ih added (keeps _ _ _ step holds)

/-- What holds of a query without conditions, and is kept by every added one, holds in the end. -/
theorem query_keeps {request : Request} {P : ConditionSet → Prop}
    (requires : ∀ query condition next, query.require condition = .ok next → P query → P next)
    (allows : ∀ query condition next, query.allow condition = .ok next → P query → P next)
    {query : ConditionSet} (built : request.query configured = .ok query)
    (start : P ⟨[], [], (configured.map Value.text).toList ++ request.verbatim, request.nested⟩) :
    P query := by
  unfold Request.query at built
  dsimp only at built
  split at built
  · contradiction
  · rename_i next required
    exact addGroups_keeps allows built (addGroups_keeps requires required start)

theorem firstInvalid?_query {request : Request} {query : ConditionSet}
    (built : request.query configured = .ok query) : query.firstInvalid? = none :=
  query_keeps (P := fun query => query.firstInvalid? = none)
    (fun _ _ _ => ConditionSet.firstInvalid?_require) (fun _ _ _ => ConditionSet.firstInvalid?_allow)
    built rfl

/-- Adding conditions leaves the fragments as they are. -/
theorem verbatim_query {request : Request} {query : ConditionSet}
    (built : request.query configured = .ok query) :
    query.verbatim = (configured.map Value.text).toList ++ request.verbatim :=
  query_keeps
    (P := fun query => query.verbatim = (configured.map Value.text).toList ++ request.verbatim)
    (fun _ _ _ added => (ConditionSet.verbatim_require added).trans)
    (fun _ _ _ added => (ConditionSet.verbatim_allow added).trans) built rfl

theorem addGroups_map (switch : Switch)
    {add : ConditionSet → Condition → Except InvalidOperator ConditionSet}
    {f : ConditionSet → ConditionSet}
    (commutes : ∀ query condition, add (f query) condition = (add query condition).map f)
    (query : ConditionSet) (groups : List (List String)) :
    addGroups switch add (f query) groups = (addGroups switch add query groups).map f := by
  induction groups generalizing query with
  | nil => rfl
  | cons group rest ih =>
    simp only [addGroups]
    cases conditionOf switch group with
    | error e => rfl
    | ok condition =>
      simp only [commutes]
      cases add query condition with
      | error e => rfl
      | ok next => exact ih next

theorem query_configured (request : Request) (fragment : String) :
    request.query (some fragment) = (request.query none).map (.precede (.text fragment)) := by
  let bare : ConditionSet := ⟨[], [], request.verbatim, request.nested⟩
  have required := addGroups_map .required
    (ConditionSet.require_precede (.text fragment)) bare request.required
  have alternatives := addGroups_map .alternative (ConditionSet.allow_precede (.text fragment))
  change addGroups .required _ ⟨[], [], .text fragment :: request.verbatim, request.nested⟩ _ = _
    at required
  simp only [Request.query, Option.map_some, Option.toList_some, List.singleton_append, required,
    Option.map_none, Option.toList_none, List.nil_append]
  cases addGroups .required ConditionSet.require bare request.required with
  | error e => rfl
  | ok query => exact alternatives query request.alternatives

/-- The switches that take conditions, and how they add one to a query. -/
inductive TakesConditions : String → Switch →
    (ConditionSet → Condition → Except InvalidOperator ConditionSet) → Prop
  | required : TakesConditions "--where" .required ConditionSet.require
  | alternative : TakesConditions "--or-where" .alternative ConditionSet.allow

namespace TakesConditions

variable {name : String} {switch : Switch}
  {add : ConditionSet → Condition → Except InvalidOperator ConditionSet} {condition : Condition}

theorem add_valid (takes : TakesConditions name switch add) (valid : condition.isValid = true)
    (query : ConditionSet) : add query condition = .ok (query.withConditions switch [condition]) := by
  cases takes with
  | required =>
    rw [ConditionSet.require, Condition.checked_of_valid valid]
    rfl
  | alternative =>
    rw [ConditionSet.allow, Condition.checked_of_valid valid]
    rfl

/-- Groups that describe conditions with valid operators are all added. -/
theorem addGroups_eq (takes : TakesConditions name switch add) {conditions : List Condition}
    {groups : List (List String)}
    (described : List.Forall₂ (fun c group => conditionOf switch group = .ok c) conditions groups)
    (valid : ∀ c ∈ conditions, c.isValid = true) (query : ConditionSet) :
    addGroups switch add query groups = .ok (query.withConditions switch conditions) := by
  induction described generalizing query with
  | nil => simp [addGroups]
  | @cons condition group conditions groups first _ ih =>
    have added := takes.add_valid (valid condition (by simp)) query
    simp only [addGroups, first, added]
    rw [ih fun c listed => valid c (by simp [listed]), ConditionSet.withConditions_append]
    rfl

end TakesConditions

end CommandLine

end DirectoryQuery
