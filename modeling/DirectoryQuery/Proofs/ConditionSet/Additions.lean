import DirectoryQuery.Proofs.ConditionSet.Validity
import DirectoryQuery.Workspace

/-! Condition sets that are built call by call. A call adds a condition to one part of the set, or
fragments to the verbatim ones. A condition without a valid operator is refused before anything is
added, and the caller may go on after that. Whatever the calls are, each part ends up with what was
accepted for it, in the order of the calls, and the calls for the other parts make no difference to it. -/
namespace DirectoryQuery

/-- A call that adds something to a condition set. -/
inductive Addition
  | require (condition : Condition)
  | allow (condition : Condition)
  | verbatim (fragments : List Value)

namespace Addition

/-- The condition of a call that adds one. -/
@[simp] def condition? : Addition → Option Condition
  | require condition | allow condition => some condition
  | verbatim _ => none

@[simp] def required? : Addition → Option Condition
  | require condition => some condition
  | allow _ | verbatim _ => none

@[simp] def allowed? : Addition → Option Condition
  | allow condition => some condition
  | require _ | verbatim _ => none

@[simp] def fragments : Addition → List Value
  | verbatim fragments => fragments
  | require _ | allow _ => []

/-- The call adds a condition, and its operator is valid. -/
def isAccepted (addition : Addition) : Bool := addition.condition?.any Condition.isValid

/-- A call as it acts on the set that it is made on. What it has done stays done if it fails, so that
it matters that the operator is looked at first. -/
def carryOut : Addition → ExceptT InvalidOperator (StateM ConditionSet) Unit
  | require condition => do
    let accepted ← condition.checked
    modify fun query => { query with required := query.required ++ [accepted] }
  | allow condition => do
    let accepted ← condition.checked
    modify fun query => { query with alternatives := query.alternatives ++ [accepted] }
  | verbatim fragments => modify fun query => query.addVerbatim fragments

/-- Two runs with the same calls for each part, in the same order. -/
structure Agree (additions others : List Addition) : Prop where
  required : additions.filterMap required? = others.filterMap required?
  allowed : additions.filterMap allowed? = others.filterMap allowed?
  fragments : additions.flatMap fragments = others.flatMap fragments

end Addition

namespace ConditionSet

/-- What the caller gets. -/
def outcome (query : ConditionSet) (addition : Addition) : Except InvalidOperator Unit :=
  (addition.carryOut.run.run query).1

/-- The set that a call leaves. -/
def after (query : ConditionSet) (addition : Addition) : ConditionSet :=
  (addition.carryOut.run.run query).2

/-- The same call as a function from sets to sets. -/
def attempt (query : ConditionSet) : Addition → Except InvalidOperator ConditionSet
  | .require condition => query.require condition
  | .allow condition => query.allow condition
  | .verbatim fragments => .ok (query.addVerbatim fragments)

/-- The set that a run of calls leaves, of which any may fail. -/
def afterAll (query : ConditionSet) (additions : List Addition) : ConditionSet :=
  additions.foldl after query

/-- The set with all that is accepted of some calls, part by part. -/
def extended (query : ConditionSet) (additions : List Addition) : ConditionSet where
  required := query.required ++ (additions.filterMap Addition.required?).filter Condition.isValid
  alternatives := query.alternatives ++ (additions.filterMap Addition.allowed?).filter Condition.isValid
  verbatim := query.verbatim ++ additions.flatMap Addition.fragments
  nested := query.nested

variable {query : ConditionSet} {addition : Addition} {condition : Condition}

/-- The function gives the refusal, or the set that the call leaves. -/
theorem attempt_eq (query : ConditionSet) (addition : Addition) :
    query.attempt addition = (query.outcome addition).map fun _ => query.after addition := by
  cases addition with
  | require condition =>
    simp only [attempt, require, outcome, after, Addition.carryOut]
    cases condition.checked <;> rfl
  | allow condition =>
    simp only [attempt, allow, outcome, after, Addition.carryOut]
    cases condition.checked <;> rfl
  | verbatim fragments => rfl

theorem extended_require (query : ConditionSet) (valid : condition.isValid = true) :
    query.extended [.require condition] = { query with required := query.required ++ [condition] } := by
  simp [extended, List.filterMap_cons, valid]

theorem extended_allow (query : ConditionSet) (valid : condition.isValid = true) :
    query.extended [.allow condition] =
      { query with alternatives := query.alternatives ++ [condition] } := by
  simp [extended, List.filterMap_cons, valid]

theorem extended_verbatim (query : ConditionSet) (fragments : List Value) :
    query.extended [.verbatim fragments] = query.addVerbatim fragments := by
  simp [extended, addVerbatim, List.filterMap_cons]

/-- Nothing of a refused call is added. -/
theorem extended_of_refused (query : ConditionSet) (asked : addition.condition? = some condition)
    (invalid : condition.isValid = false) : query.extended [addition] = query := by
  cases addition with
  | require other | allow other =>
    obtain rfl := Option.some.inj asked
    simp [extended, List.filterMap_cons, invalid]
  | verbatim fragments => simp at asked

theorem carryOut_of_refused (query : ConditionSet) (asked : addition.condition? = some condition)
    (invalid : condition.isValid = false) :
    addition.carryOut.run.run query = (.error ⟨condition.operator⟩, query) := by
  cases addition with
  | require other | allow other =>
    obtain rfl := Option.some.inj asked
    simp only [Addition.carryOut, Condition.checked_of_invalid invalid]
    rfl
  | verbatim fragments => simp at asked

theorem carryOut_of_accepted (query : ConditionSet)
    (valid : ∀ c, addition.condition? = some c → c.isValid = true) :
    addition.carryOut.run.run query = (.ok (), query.extended [addition]) := by
  cases addition with
  | require condition =>
    have fits := valid condition rfl
    rw [extended_require query fits]
    simp only [Addition.carryOut, Condition.checked_of_valid fits]
    rfl
  | allow condition =>
    have fits := valid condition rfl
    rw [extended_allow query fits]
    simp only [Addition.carryOut, Condition.checked_of_valid fits]
    rfl
  | verbatim fragments =>
    rw [extended_verbatim]
    rfl

/-- A call is refused for its operator and for nothing else. -/
theorem exists_refused_or_accepted (addition : Addition) :
    (∃ condition, addition.condition? = some condition ∧ condition.isValid = false) ∨
      ∀ c, addition.condition? = some c → c.isValid = true := by
  cases asked : addition.condition? with
  | none => exact Or.inr nofun
  | some condition =>
    cases valid : condition.isValid with
    | false => exact Or.inl ⟨condition, rfl, valid⟩
    | true =>
      refine Or.inr ?_
      rintro _ ⟨rfl⟩
      exact valid

theorem outcome_eq_error_iff {e : InvalidOperator} :
    query.outcome addition = .error e ↔
      ∃ condition, addition.condition? = some condition ∧ condition.isValid = false ∧
        e = ⟨condition.operator⟩ := by
  rcases exists_refused_or_accepted addition with ⟨condition, asked, invalid⟩ | valid
  · rw [outcome, carryOut_of_refused query asked invalid]
    constructor
    · rintro ⟨rfl⟩
      exact ⟨condition, asked, invalid, rfl⟩
    · rintro ⟨other, asked', _, rfl⟩
      obtain rfl := Option.some.inj (asked.symm.trans asked')
      rfl
  · rw [outcome, carryOut_of_accepted query valid]
    refine ⟨nofun, ?_⟩
    rintro ⟨condition, asked, invalid, _⟩
    simp [valid condition asked] at invalid

theorem after_eq_extended (query : ConditionSet) (addition : Addition) :
    query.after addition = query.extended [addition] := by
  rcases exists_refused_or_accepted addition with ⟨condition, asked, invalid⟩ | valid
  · rw [after, carryOut_of_refused query asked invalid, extended_of_refused query asked invalid]
  · rw [after, carryOut_of_accepted query valid]

theorem extended_append (query : ConditionSet) (additions others : List Addition) :
    (query.extended additions).extended others = query.extended (additions ++ others) := by
  simp [extended]

/-- A run keeps what was there and adds what is accepted, each part on its own. -/
theorem afterAll_eq_extended (query : ConditionSet) (additions : List Addition) :
    query.afterAll additions = query.extended additions := by
  induction additions generalizing query with
  | nil => simp [afterAll, extended]
  | cons addition rest ih =>
    calc (query.after addition).afterAll rest
      _ = (query.after addition).extended rest := ih _
      _ = (query.extended [addition]).extended rest := by rw [after_eq_extended]
      _ = query.extended (addition :: rest) := extended_append query [addition] rest

/-- Every accepted condition stands in one of two parts. -/
theorem length_accepted (additions : List Addition) :
    ((additions.filterMap Addition.required?).filter Condition.isValid).length +
        ((additions.filterMap Addition.allowed?).filter Condition.isValid).length =
      (additions.filter Addition.isAccepted).length := by
  induction additions with
  | nil => rfl
  | cons addition rest ih =>
    cases addition with
    | require condition | allow condition =>
      cases valid : condition.isValid
      all_goals
        simp only [List.filterMap_cons, Addition.required?, Addition.allowed?, List.filter_cons,
          Addition.isAccepted, Addition.condition?, Option.any_some, valid, if_true,
          Bool.false_eq_true, if_false, List.length_cons]
        omega
    | verbatim fragments => simpa [List.filterMap_cons, Addition.isAccepted] using ih

theorem size_extended (query : ConditionSet) (additions : List Addition) :
    (query.extended additions).size = query.size + (additions.filter Addition.isAccepted).length +
      (additions.flatMap Addition.fragments).length := by
  have accepted := length_accepted additions
  simp only [size, extended, List.length_append]
  omega

theorem filter_extended (valid : ∀ c ∈ query.required ++ query.alternatives, c.isValid = true)
    (additions : List Addition) : ∃ text, (query.extended additions).filter = .ok text := by
  apply filter_of_valid
  apply Condition.firstInvalid?_eq_none_iff.mpr
  intro c listed
  simp only [extended, List.mem_append, List.mem_filter] at listed valid
  rcases listed with (there | ⟨_, accepted⟩) | there | ⟨_, accepted⟩
  · exact valid c (Or.inl there)
  · exact accepted
  · exact valid c (Or.inr there)
  · exact accepted

theorem after_of_refused {e : InvalidOperator} (refused : query.outcome addition = .error e) :
    query.after addition = query := by
  obtain ⟨condition, asked, invalid, _⟩ := outcome_eq_error_iff.mp refused
  rw [after_eq_extended, extended_of_refused query asked invalid]

end ConditionSet

/-! A workspace carries such calls out, and tells after each of them what the set holds. -/

namespace Workspace

variable {workspace : Workspace} {name : String} {query : ConditionSet}

def Action.ofAddition : Addition → Action
  | .require condition => .require condition
  | .allow condition => .allow condition
  | .verbatim fragments => .addVerbatim fragments

/-- What is replied to a call. -/
def replyTo (query : ConditionSet) (addition : Addition) : Except Error Reply :=
  match query.outcome addition with
  | .ok _ => .ok (.set (query.after addition))
  | .error e => .error (.invalidOperator e)

/-- What is replied to the calls of a run. -/
def repliesTo : ConditionSet → List Addition → List (Except Error Reply)
  | _, [] => []
  | query, addition :: rest => replyTo query addition :: repliesTo (query.after addition) rest

theorem put_of_held (held : workspace name = some query) : workspace.put name query = workspace := by
  funext other
  simp only [put]
  split
  · rename_i same
    rw [same, held]
  · rfl

theorem put_put (workspace : Workspace) (name : String) (query next : ConditionSet) :
    (workspace.put name query).put name next = workspace.put name next := by
  funext other
  simp only [put]
  split <;> rfl

theorem subject_addition (held : workspace name = some query) (addition : Addition) :
    workspace.subject name (.ofAddition addition) = .ok query := by
  have found : workspace.find name = .ok query := by simp only [find, held]
  cases addition <;> exact found

theorem change_addition (workspace : Workspace) (query : ConditionSet) (addition : Addition) :
    workspace.change query (.ofAddition addition) =
      (replyTo query addition).map fun _ => query.after addition := by
  have attempted : workspace.change query (.ofAddition addition) =
      (query.attempt addition).mapError Error.invalidOperator := by
    cases addition <;> rfl
  rw [attempted, ConditionSet.attempt_eq, replyTo]
  cases query.outcome addition <;> rfl

theorem reply_addition (workspace : Workspace) (name : String) (query : ConditionSet)
    (addition : Addition) :
    workspace.reply name query (.ofAddition addition) = .ok (.set query) := by
  cases addition <;> rfl

theorem stepLog_addition (workspace : Workspace) (name : String) (addition : Addition) :
    workspace.stepLog name (.ofAddition addition) = [] := by
  cases addition <;> rfl

theorem step_addition (held : workspace name = some query) (addition : Addition) :
    workspace.step name (.ofAddition addition) =
      (replyTo query addition).map fun reply => (reply, workspace.put name (query.after addition)) := by
  simp only [step, subject_addition held, bind, Except.bind, change_addition, replyTo]
  cases query.outcome addition with
  | error e => rfl
  | ok => simp only [Except.map, reply_addition, pure, Except.pure]

/-- After a run of calls the workspace holds the set that the calls leave. -/
theorem run_additions (held : workspace name = some query) (additions : List Addition)
    (more : List (String × Action)) :
    workspace.run (additions.map (fun addition => (name, .ofAddition addition)) ++ more) =
      (repliesTo query additions ++ ((workspace.put name (query.afterAll additions)).run more).1,
        ((workspace.put name (query.afterAll additions)).run more).2) := by
  induction additions generalizing workspace query with
  | nil => simp [repliesTo, ConditionSet.afterAll, put_of_held held]
  | cons addition rest ih =>
    have kept : (workspace.put name (query.after addition)) name = some (query.after addition) := by
      simp [put]
    have later := ih kept
    rw [put_put] at later
    have passed : query.afterAll (addition :: rest) = (query.after addition).afterAll rest := rfl
    rw [List.map_cons, List.cons_append, run, step_addition held, passed, repliesTo, stepLog_addition]
    cases answer : query.outcome addition with
    | error e =>
      rw [ConditionSet.after_of_refused answer, put_of_held held] at later
      simp only [ConditionSet.after_of_refused answer, replyTo, answer, Except.map, later,
        List.nil_append, List.cons_append]
    | ok => simp only [replyTo, answer, Except.map, later, List.nil_append, List.cons_append]

end Workspace

namespace ConditionSet

/-- Call by call a set gets what is accepted for each of its parts, and what is refused leaves no trace.
A set whose operators are valid in the beginning has a filter at any time. The order of the calls counts
only within each part. -/
theorem afterAll_keeps_accepted (query : ConditionSet) (additions : List Addition) :
    (∀ addition e, (query.afterAll additions).outcome addition = .error e ↔
      ∃ condition, addition.condition? = some condition ∧
        (¬∃ token ∈ Operator.tokens, condition.operator = .text token) ∧
        e = ⟨condition.operator⟩) ∧
    (∀ addition e, (query.afterAll additions).outcome addition = .error e →
      query.afterAll (additions ++ [addition]) = query.afterAll additions) ∧
    (∀ addition, (query.afterAll additions).attempt addition =
      ((query.afterAll additions).outcome addition).map fun _ =>
        query.afterAll (additions ++ [addition])) ∧
    query.afterAll additions =
      { required := query.required ++
          (additions.filterMap Addition.required?).filter Condition.isValid
        alternatives := query.alternatives ++
          (additions.filterMap Addition.allowed?).filter Condition.isValid
        verbatim := query.verbatim ++ additions.flatMap Addition.fragments
        nested := query.nested } ∧
    (query.afterAll additions).size = query.size + (additions.filter Addition.isAccepted).length +
      (additions.flatMap Addition.fragments).length ∧
    (∀ others, Addition.Agree additions others → query.afterAll others = query.afterAll additions) ∧
    ((∀ c ∈ query.required ++ query.alternatives, c.isValid = true) →
      (∀ before, before <+: additions → ∃ text, (query.afterAll before).filter = .ok text) ∧
      ∃ text, (query.afterAll additions).filter = .ok text ∧
        ∀ others, Addition.Agree additions others → (query.afterAll others).filter = .ok text) := by
  have same (others : List Addition) (agree : Addition.Agree additions others) :
      query.afterAll others = query.afterAll additions := by
    simp only [afterAll_eq_extended, extended, agree.required, agree.allowed, agree.fragments]
  have next (addition : Addition) :
      query.afterAll (additions ++ [addition]) = (query.afterAll additions).after addition := by
    rw [afterAll, List.foldl_append]
    rfl
  refine ⟨?_, ?_, ?_, afterAll_eq_extended query additions, ?_, same, ?_⟩
  · intro addition e
    simp only [outcome_eq_error_iff, ← Condition.isValid_iff, Bool.not_eq_true]
  · intro addition e refused
    rw [next, after_of_refused refused]
  · intro addition
    rw [next, attempt_eq]
  · rw [afterAll_eq_extended, size_extended]
  · intro valid
    constructor
    · intro before _
      rw [afterAll_eq_extended]
      exact filter_extended valid before
    · obtain ⟨text, ok⟩ := filter_extended valid additions
      rw [← afterAll_eq_extended] at ok
      exact ⟨text, ok, fun others agree => by rw [same others agree, ok]⟩

/-- A run in which two calls are refused, one for an unknown token and one for a number. -/
def interrupted : List Addition := [
  .require ⟨.text "uid", .text "=", .text "x"⟩, .allow ⟨.text "cn", .text "like", .text "a"⟩,
  .verbatim [.text "(a=b)", .text ""], .require ⟨.text "cn", .int 3, .null⟩,
  .allow ⟨.text "cn", .text "*", .null⟩]

theorem interrupted_filter :
    (∀ c ∈ empty.required ++ empty.alternatives, c.isValid = true) ∧
      (empty.afterAll interrupted).size = 4 ∧
      (∀ before, before <+: interrupted → ∃ text, (empty.afterAll before).filter = .ok text) ∧
      ∀ others, Addition.Agree interrupted others →
        (empty.afterAll others).filter = .ok "(&(a=b)(uid=x)(|(cn=*)))" := by
  have valid : ∀ c ∈ empty.required ++ empty.alternatives, c.isValid = true := nofun
  obtain ⟨_, _, _, _, size, _, compiled⟩ := afterAll_keeps_accepted empty interrupted
  obtain ⟨always, text, ok, reordered⟩ := compiled valid
  have written : (empty.afterAll interrupted).filter = .ok "(&(a=b)(uid=x)(|(cn=*)))" := rfl
  obtain rfl : "(&(a=b)(uid=x)(|(cn=*)))" = text := Except.ok.inj (written.symm.trans ok)
  exact ⟨valid, size, always, reordered⟩

end ConditionSet

end DirectoryQuery
