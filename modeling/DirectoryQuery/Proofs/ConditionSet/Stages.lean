import DirectoryQuery.Proofs.ConditionSet.Reading
import DirectoryQuery.Proofs.ConditionSet.Validity

/-! The filter of a condition set as it is made, stage by stage. The envelope is chosen twice: a set with
several parts gets that of a conjunction, and the alternatives, which are written last, may turn it into
that of a disjunction or ask for a group of their own. Only a set that stands alone gets an envelope, and
it makes no other difference whether a set is nested. Nothing but an invalid operator ends the work early,
and what has been logged until then stays logged: the one record is written when the filter is complete. -/
namespace DirectoryQuery

/-- Work that may be refused for an operator, and that writes to the log. -/
abbrev Compilation := ExceptT InvalidOperator (StateM (List Log.Record))

namespace Compilation

/-- What the work leads to, and the log after it. -/
def result (work : Compilation α) (log : List Log.Record) :
    Except InvalidOperator α × List Log.Record :=
  work.run.run log

variable {work : Compilation α} {outcome : Except InvalidOperator α} {log : List Log.Record}

theorem result_bind (work : Compilation α) (next : α → Compilation β) (log : List Log.Record) :
    (work >>= next).result log =
      (ExceptT.bindCont next (work.result log).1).run (work.result log).2 := rfl

/-- Work that logs nothing may be replaced by its outcome. -/
theorem result_bind_silent (silent : work.result log = (outcome, log)) (next : α → Compilation β) :
    (work >>= next).result log = (liftM outcome >>= next).result log := by
  rw [result_bind, silent]
  rfl

theorem result_bind_ok (value : α) (next : α → Compilation β) (log : List Log.Record) :
    (liftM (.ok value : Except InvalidOperator α) >>= next).result log = (next value).result log := rfl

theorem result_bind_error (e : InvalidOperator) (next : α → Compilation β) (log : List Log.Record) :
    (liftM (.error e : Except InvalidOperator α) >>= next).result log = (.error e, log) := rfl

end Compilation

open Compilation (result_bind_silent result_bind_ok result_bind_error)

namespace Condition

/-- Writes the fragments of several conditions, one after another. -/
def written : List Condition → Compilation String
  | [] => return ""
  | condition :: rest => do
    let first ← condition.fragment
    let others ← written rest
    return first ++ others

theorem result_written (conditions : List Condition) (log : List Log.Record) :
    (written conditions).result log = (fragments conditions, log) := by
  induction conditions with
  | nil => rfl
  | cons condition rest ih =>
    rw [written, fragments]
    cases condition.fragment with
    | error e => rfl
    | ok first =>
      rw [result_bind_ok, result_bind_silent ih]
      cases fragments rest <;> rfl

end Condition

namespace ConditionSet

open Condition (written result_written)

/-- Writes the alternatives, given the envelope so far. If they make the query one disjunction, they
stay side by side, and their envelope is the one to use unless a larger query supplies it. Beside other
filters they form a group, and the envelope stays as it is. -/
def alternativesStage (query : ConditionSet) (envelope : Option Envelope) :
    Compilation (String × Option Envelope) := do
  let text ← written query.alternatives
  if 1 < query.size then
    let required := query.required.length
    let alternatives := query.alternatives.length
    if 1 ≤ alternatives ∧ (required = 0 ∨ required = 1 ∧ alternatives = 1) ∧
        query.verbatim.length = 0 then
      return (text, if query.nested then envelope else some .disjunction)
    else
      return (Envelope.disjunction.around text, envelope)
  else
    return (text, envelope)

/-- Makes the filter, and tells the log of it in the end. -/
def compilation (query : ConditionSet) : Compilation String := do
  let envelope := if !query.nested && 1 < query.size then some Envelope.conjunction else none
  let required ← written query.required
  let (alternatives, envelope) ← query.alternativesStage envelope
  let body := Value.joined query.verbatim ++ required ++ alternatives
  let filter := envelope.elim body (·.around body)
  modify (· ++ [compiled filter])
  return filter

variable {query : ConditionSet}

theorem collapses_iff_lengths (several : 1 < query.size) :
    query.Collapses ↔ 1 ≤ query.alternatives.length ∧
      (query.required.length = 0 ∨ query.required.length = 1 ∧ query.alternatives.length = 1) ∧
        query.verbatim.length = 0 := by
  simp only [Collapses, several, true_and, List.length_eq_zero_iff, Nat.one_le_iff_ne_zero, ne_eq]
  constructor
  · rintro ⟨unwritten, filled, shape⟩
    exact ⟨filled, shape, unwritten⟩
  · rintro ⟨filled, shape, unwritten⟩
    exact ⟨unwritten, filled, shape⟩

theorem isDisjunction_of_single (single : query.size ≤ 1) : query.isDisjunction = false := by
  simp [isDisjunction, Nat.not_lt.mpr single]

theorem result_alternativesStage (query : ConditionSet) (envelope : Option Envelope)
    (log : List Log.Record) :
    (query.alternativesStage envelope).result log =
      ((Condition.fragments query.alternatives).map fun text => (query.group text,
        if query.isDisjunction && !query.nested then some .disjunction else envelope), log) := by
  rw [alternativesStage, result_bind_silent (result_written query.alternatives log)]
  cases Condition.fragments query.alternatives with
  | error e => rfl
  | ok text =>
    rw [result_bind_ok]
    rcases Nat.lt_or_ge 1 query.size with several | single
    · simp only [several, if_true, ← collapses_iff_lengths several, group, ← isDisjunction_iff]
      cases query.isDisjunction <;> cases query.nested <;> rfl
    · simp only [Nat.not_lt.mpr single, if_false, group, isDisjunction_of_single single, decide_false,
        Bool.false_and, Bool.false_eq_true]
      rfl

/-- The envelope that the two choices lead to. -/
theorem envelope?_eq_chosen (query : ConditionSet) :
    query.envelope? =
      if query.isDisjunction && !query.nested then some .disjunction
      else if !query.nested && 1 < query.size then some .conjunction else none := by
  unfold envelope?
  rcases Nat.lt_or_ge 1 query.size with several | single
  · cases query.nested <;> simp [several, Nat.not_le.mpr several]
  · simp [isDisjunction_of_single single, single]

/-- Stage by stage, a query comes to its filter, and the log to one record more if there is a filter. -/
theorem result_compilation (query : ConditionSet) (log : List Log.Record) :
    query.compilation.result log = (query.filter, log ++ query.filterLog) := by
  have stage := query.result_alternativesStage
    (if !query.nested && 1 < query.size then some .conjunction else none) log
  rw [← envelope?_eq_chosen] at stage
  rw [compilation, result_bind_silent (result_written query.required log)]
  unfold filterLog
  cases required : Condition.fragments query.required with
  | error e =>
    have body : query.body = .error e := by rw [body, required]; rfl
    rw [result_bind_error, filter, body]
    simp [Except.map]
  | ok before =>
    rw [result_bind_ok, result_bind_silent stage]
    cases alternatives : Condition.fragments query.alternatives with
    | error e =>
      have body : query.body = .error e := by rw [body, required, alternatives]; rfl
      rw [filter, body]
      simp [Except.map, result_bind_error]
    | ok behind =>
      have body := body_eq_ok_iff.mpr ⟨before, behind, required, alternatives, rfl⟩
      rw [filter_of_body body]
      rfl

/-- A query fails for the first of its invalid operators, in the order of the text, and for nothing
else. Then nothing is logged; otherwise there is a filter, and one record that tells it. -/
theorem fails_at_first_invalid (query : ConditionSet) :
    (∀ e, query.filter = .error e ↔ ∃ before c,
      before ++ [c] <+: query.required ++ query.alternatives ∧
      (∀ b ∈ before, ∃ token ∈ Operator.tokens, b.operator = .text token) ∧
      (¬∃ token ∈ Operator.tokens, c.operator = .text token) ∧ e = ⟨c.operator⟩) ∧
    ((∃ c ∈ query.required ++ query.alternatives,
        ¬∃ token ∈ Operator.tokens, c.operator = .text token) →
      ∃ e, query.filter = .error e ∧
        e.message = "Invalid LDAP filter operator [" ++ e.token.shown ++ "]" ∧
        query.filterLog = [] ∧ ∀ log, query.compilation.result log = (.error e, log)) ∧
    ((∀ c ∈ query.required ++ query.alternatives,
        ∃ token ∈ Operator.tokens, c.operator = .text token) →
      ∃ text, query.filter = .ok text ∧
        query.filterLog =
          [⟨["ldap_filter_grammar", "compiler"], .debug, "Compiled LDAP filter: " ++ text⟩] ∧
        ∀ log, query.compilation.result log = (.ok text, log ++ query.filterLog)) := by
  simp only [← Condition.isValid_iff, Bool.not_eq_true, result_compilation]
  refine ⟨?_, ?_, ?_⟩
  · intro e
    rw [filter_eq_error_iff, firstInvalid?, Condition.firstInvalid?_eq_some_iff]
    constructor
    · rintro ⟨before, c, cut, valid, invalid, same⟩
      exact ⟨before, c, cut, valid, invalid, by rw [same]⟩
    · rintro ⟨before, c, cut, valid, invalid, rfl⟩
      exact ⟨before, c, cut, valid, invalid, rfl⟩
  · rintro ⟨c, listed, invalid⟩
    obtain ⟨token, first⟩ := Condition.exists_firstInvalid listed invalid
    have failed : query.filter = .error ⟨token⟩ := filter_of_firstInvalid first
    have silent : query.filterLog = [] := by simp only [filterLog, failed]
    refine ⟨⟨token⟩, failed, rfl, silent, ?_⟩
    intro log
    rw [failed, silent, List.append_nil]
  · intro valid
    obtain ⟨text, ok⟩ := filter_of_valid (Condition.firstInvalid?_eq_none_iff.mpr valid)
    refine ⟨text, ok, ?_, ?_⟩
    · simp only [filterLog, ok]
      rfl
    · intro log
      rw [ok]

/-- Two operators are none: a list that holds a token, and nothing at all. -/
def mistyped : ConditionSet where
  required := [⟨.text "uid", .text "=", .int 7⟩, ⟨.null, .list [.text "="], .null⟩]
  alternatives := [⟨.text "cn", .null, .null⟩, ⟨.text "cn", .text "*", .null⟩]
  verbatim := [.text "", .text "(("]
  nested := false

theorem mistyped_refused :
    mistyped.filter = .error ⟨.list [.text "="]⟩ ∧
      (∃ e, mistyped.filter = .error e ∧ e.message = "Invalid LDAP filter operator [['=']]") ∧
      (∀ log, mistyped.compilation.result log = (.error ⟨.list [.text "="]⟩, log)) ∧
      ∀ log, staff.compilation.result log = (.ok
        "(&(uid=j)(objectClass=person)(|(cn=adm*)(!(cn=root))))", log ++
          [⟨["ldap_filter_grammar", "compiler"], .debug,
            "Compiled LDAP filter: (&(uid=j)(objectClass=person)(|(cn=adm*)(!(cn=root))))"⟩]) := by
  have failed : mistyped.filter = .error ⟨.list [.text "="]⟩ := rfl
  have invalid : ¬∃ token ∈ Operator.tokens, Value.list [.text "="] = .text token := by simp
  obtain ⟨e, refused, message, _, silent⟩ := (fails_at_first_invalid mistyped).2.1
    ⟨⟨.null, .list [.text "="], .null⟩, by simp [mistyped], invalid⟩
  obtain rfl := Except.error.inj (failed.symm.trans refused)
  obtain ⟨text, ok, record, told⟩ := (fails_at_first_invalid staff).2.2 (by
    intro c listed
    simp only [staff, List.cons_append, List.nil_append, List.mem_cons, List.not_mem_nil,
      or_false] at listed
    rcases listed with rfl | rfl | rfl
    all_goals simp [Operator.tokens, Operator.registry])
  obtain rfl : "(&(uid=j)(objectClass=person)(|(cn=adm*)(!(cn=root))))" = text :=
    Except.ok.inj ((show staff.filter = .ok _ from rfl).symm.trans ok)
  refine ⟨failed, ⟨_, failed, message⟩, silent, ?_⟩
  intro log
  rw [told, record]
  rfl

/-- Side by side, the filters of a query do not depend on whether it is nested. -/
theorem filter_nested (query : ConditionSet) : { query with nested := true }.filter = query.body := by
  have same : { query with nested := true }.body = query.body := rfl
  rw [filter, same]
  cases query.body <;> rfl

theorem envelope?_alone (query : ConditionSet) :
    { query with nested := false }.envelope? =
      if query.Collapses then some .disjunction
      else if 1 < query.size then some .conjunction else none := by
  rw [envelope?_eq_chosen]
  have disjunction : { query with nested := false }.isDisjunction = query.isDisjunction := rfl
  have size : { query with nested := false }.size = query.size := rfl
  simp only [disjunction, size, ← isDisjunction_iff, Bool.not_false, Bool.and_true, Bool.true_and,
    decide_eq_true_eq]

/-- A set that stands alone is refused exactly if it is refused as a nested one, and for the same
operator. Otherwise it has the filter of the nested set, in the envelope of a disjunction if it is one, in
that of a conjunction if it has several parts and is none, and as it is if it has one part at most. -/
theorem filter_differs_by_envelope (query : ConditionSet) :
    (∀ e, { query with nested := false }.filter = .error e ↔
      { query with nested := true }.filter = .error e) ∧
    ∀ body, { query with nested := true }.filter = .ok body →
      ∃ text, { query with nested := false }.filter = .ok text ∧
        (query.Collapses → text = Envelope.disjunction.around body) ∧
        (1 < query.size → ¬query.Collapses → text = Envelope.conjunction.around body) ∧
        (query.size ≤ 1 → text = body) ∧ (text = "" ↔ body = "") := by
  have alone : { query with nested := false }.body = query.body := rfl
  rw [filter_nested]
  constructor
  · intro e
    rw [filter, alone]
    cases query.body <;> simp [Except.map]
  · intro body ok
    refine ⟨_, filter_of_body (alone.trans ok), ?_, ?_, ?_, ?_⟩
    all_goals rw [envelope?_alone]
    · intro collapses
      simp [collapses]
    · intro several other
      simp [several, other]
    · intro single
      have other : ¬query.Collapses := fun collapses => Nat.not_lt.mpr single collapses.1
      simp [other, Nat.not_lt.mpr single]
    · split
      · exact Envelope.disjunction.around_eq_empty_iff body
      · split
        · exact Envelope.conjunction.around_eq_empty_iff body
        · rfl

/-- A required condition and an alternative, of values that are no texts and texts that are no values. -/
def unescaped : ConditionSet where
  required := [⟨.text "a(", .text "=", .int 3⟩]
  alternatives := [⟨.null, .text "!", .text "*)"⟩]
  verbatim := []
  nested := true

def blanks : ConditionSet := ⟨[], [], [.text "", .text ""], true⟩

theorem unescaped_alone :
    (unescaped.filter = .ok "(a(=3)(!(None=*)))" ∧
      { unescaped with nested := false }.filter = .ok "(|(a(=3)(!(None=*))))") ∧
    (1 < blanks.size ∧ blanks.filter = .ok "" ∧ { blanks with nested := false }.filter = .ok "") ∧
    { mistyped with nested := true }.filter = .error ⟨.list [.text "="]⟩ := by
  have nested : unescaped.filter = .ok "(a(=3)(!(None=*)))" := rfl
  have blank : blanks.filter = .ok "" := rfl
  refine ⟨⟨nested, ?_⟩, ⟨by decide, blank, ?_⟩, ?_⟩
  · obtain ⟨text, ok, disjunction, _⟩ := (filter_differs_by_envelope unescaped).2 _ nested
    rw [ok, disjunction (by decide)]
    rfl
  · obtain ⟨text, ok, _, _, _, empty⟩ := (filter_differs_by_envelope blanks).2 _ blank
    rw [ok, empty.mpr rfl]
  · exact ((filter_differs_by_envelope mistyped).1 _).mp rfl

end ConditionSet

end DirectoryQuery
