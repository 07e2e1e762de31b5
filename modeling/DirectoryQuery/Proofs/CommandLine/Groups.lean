import DirectoryQuery.Proofs.CommandLine.Endings
import DirectoryQuery.Proofs.CommandLine.Quotation
import DirectoryQuery.Proofs.Settings

/-! Which of several groups decides. The groups of a command line are looked at in their order, the
required ones before the alternatives. The first that is no condition, or whose operator is invalid, ends
the run with its own error, whatever the other groups are; if there is none, they all end up in the query.
A search looks at the time limit first. -/
namespace DirectoryQuery.CommandLine

open Text (IsBlanks IsGap)

/-! The groups of a request are those of its command line. -/

/-- The arguments that a portion gives to a switch. -/
def Portion.group? (wanted : Switch) (portion : Portion) : Option (List String) :=
  match portion.head with
  | .switch found _ attached =>
    if found = wanted then some (attached.elim portion.followers Draft.attachedGroup) else none
  | .plain _ | .unknown _ => none

/-- The groups of a switch that takes conditions. -/
def Request.groupsOf (request : Request) : Switch → List (List String)
  | .required => request.required
  | .alternative => request.alternatives
  | _ => []

variable {name : String} {switch : Switch}
  {add : ConditionSet → Condition → Except InvalidOperator ConditionSet}

theorem Request.groupsOf_joined (request other : Request) (wanted : Switch) :
    (request.joined other).groupsOf wanted = request.groupsOf wanted ++ other.groupsOf wanted := by
  cases wanted <;> simp [groupsOf, joined]

namespace Draft

theorem groupsOf_carryOut {next : Draft} (takes : TakesConditions name wanted add)
    (carried : empty.carryOut portion = .ok next) :
    next.request.groupsOf wanted = (portion.group? wanted).toList := by
  obtain ⟨head, followers⟩ := portion
  cases head with
  | plain text | unknown text =>
    obtain rfl := Except.ok.inj carried
    cases takes <;> rfl
  | switch found short attached =>
    cases found with
    | help => simp [carryOut] at carried
    | required | alternative | verbatim =>
      cases attached with
      | some text =>
        obtain rfl := Except.ok.inj carried
        cases takes <;> rfl
      | none =>
        cases followers with
        | nil => contradiction
        | cons first rest =>
          obtain rfl := Except.ok.inj carried
          cases takes <;> rfl
    | nested | operators | search =>
      cases attached with
      | some text => contradiction
      | none =>
        obtain rfl := Except.ok.inj carried
        cases takes <;> rfl

theorem groupsOf_carryOutAll {draft : Draft} (takes : TakesConditions name wanted add)
    {list : List Portion} (carried : carryOutAll empty list = .ok draft) :
    draft.request.groupsOf wanted = list.filterMap (Portion.group? wanted) := by
  induction list generalizing draft with
  | nil =>
    obtain rfl := Except.ok.inj carried
    cases takes <;> rfl
  | cons portion rest ih =>
    obtain ⟨next, last, first, later, rfl⟩ := exists_of_carryOutAll carried
    rw [joined, Request.groupsOf_joined, groupsOf_carryOut takes first, ih later, List.filterMap_cons]
    cases portion.group? wanted <;> rfl

end Draft

/-! What a group describes. -/

/-- A group that describes a condition: in separate arguments, or in one. -/
inductive Wording.Given (wording : Wording) : List String → Prop
  | separate : wording.Given wording.arguments
  | quoted {text : String} (quoted : wording.Quoted text.toList) : wording.Given [text]

/-- Two arguments or three, or one that holds two words or more. -/
def IsCondition (group : List String) : Prop :=
  group.length = 2 ∨ group.length = 3 ∨ ∃ text, group = [text] ∧ 2 ≤ (wordsOf text).length

theorem exists_given_iff {group : List String} :
    (∃ wording : Wording, wording.Given group) ↔ IsCondition group := by
  constructor
  · rintro ⟨⟨field, token, value⟩, given⟩
    cases given with
    | separate => cases value <;> simp [IsCondition, Wording.arguments]
    | quoted quoted => exact .inr (.inr ⟨_, rfl, exists_quoted_iff.mp ⟨_, quoted⟩⟩)
  · rintro (two | three | ⟨text, rfl, several⟩)
    · obtain ⟨field, token, rfl⟩ := List.length_eq_two.mp two
      exact ⟨⟨field, token, none⟩, .separate⟩
    · obtain ⟨field, token, value, rfl⟩ := List.length_eq_three.mp three
      exact ⟨⟨field, token, some value⟩, .separate⟩
    · obtain ⟨wording, quoted⟩ := exists_quoted_iff.mpr several
      exact ⟨wording, .quoted quoted⟩

theorem conditionOf_given {wording : Wording} {group : List String} (given : wording.Given group)
    (switch : Switch) : conditionOf switch group = .ok wording.condition := by
  cases given with
  | separate => exact conditionOf_arguments switch wording
  | quoted quoted => exact conditionOf_quoted switch quoted

theorem conditionOf_malformed {group : List String} (other : ¬IsCondition group) (switch : Switch) :
    conditionOf switch group = .error (.malformed switch (parts group)) := by
  simp only [IsCondition, not_or, not_exists, not_and] at other
  obtain ⟨two, three, one⟩ := other
  apply conditionOf_of_length
  cases group with
  | nil => decide
  | cons first rest =>
    cases rest with
    | nil =>
      have few := Nat.not_le.mp (one first rfl)
      rw [parts_few few]
      omega
    | cons second rest => exact ⟨two, three⟩

theorem Wording.isValid_iff {wording : Wording} :
    wording.condition.isValid = true ↔ wording.token ∈ Operator.tokens := by
  simp [Condition.isValid_iff, condition]

/-- A group of arguments, and the switch in front of it. -/
structure Group where
  switch : Switch
  arguments : List String

/-- The groups of a request in the order in which they are looked at. -/
def Request.groups (request : Request) : List Group :=
  request.required.map (⟨.required, ·⟩) ++ request.alternatives.map (⟨.alternative, ·⟩)

namespace Group

/-- The group describes a condition with a valid operator. -/
def IsAccepted (group : Group) : Prop :=
  ∃ wording : Wording, wording.Given group.arguments ∧ wording.token ∈ Operator.tokens

/-- What is wrong with a group, whatever the others are. -/
inductive Fails (group : Group) : QueryError → Prop
  | malformed (other : ¬IsCondition group.arguments) :
      group.Fails (.usage (.malformed group.switch (parts group.arguments)))
  | invalid {wording : Wording} (given : wording.Given group.arguments)
      (unlisted : wording.token ∉ Operator.tokens) :
      group.Fails (.invalidOperator ⟨.text wording.token⟩)

theorem accepted_or_fails (group : Group) : group.IsAccepted ∨ ∃ e, group.Fails e := by
  by_cases shaped : IsCondition group.arguments
  · obtain ⟨wording, given⟩ := exists_given_iff.mpr shaped
    by_cases listed : wording.token ∈ Operator.tokens
    · exact .inl ⟨wording, given, listed⟩
    · exact .inr ⟨_, .invalid given listed⟩
  · exact .inr ⟨_, .malformed shaped⟩

/-- Adds the condition of a group to a query. -/
def addTo (query : ConditionSet) (group : Group) : Except QueryError ConditionSet :=
  match conditionOf group.switch group.arguments with
  | .error e => .error (.usage e)
  | .ok condition =>
    match condition.checked with
    | .error e => .error (.invalidOperator e)
    | .ok condition => .ok (query.withConditions group.switch [condition])

variable {group : Group} {query : ConditionSet}

theorem addTo_accepted (accepted : group.IsAccepted) (query : ConditionSet) :
    ∃ next, addTo query group = .ok next := by
  obtain ⟨wording, given, listed⟩ := accepted
  have checked := Condition.checked_of_valid (Wording.isValid_iff.mpr listed)
  refine ⟨query.withConditions group.switch [wording.condition], ?_⟩
  simp only [addTo, conditionOf_given given, checked]

theorem addTo_fails (fails : group.Fails e) (query : ConditionSet) : addTo query group = .error e := by
  cases fails with
  | malformed other => simp only [addTo, conditionOf_malformed other]
  | @invalid wording given unlisted =>
    have invalid : wording.condition.isValid = false := by
      simpa using mt Wording.isValid_iff.mp unlisted
    simp only [addTo, conditionOf_given given, Condition.checked_of_invalid invalid]
    rfl

theorem foldlM_accepted {groups : List Group} (accepted : ∀ g ∈ groups, g.IsAccepted)
    (query : ConditionSet) : ∃ next, groups.foldlM addTo query = .ok next := by
  induction groups generalizing query with
  | nil => exact ⟨query, rfl⟩
  | cons first rest ih =>
    obtain ⟨next, added⟩ := addTo_accepted (accepted first (by simp)) query
    rw [List.foldlM_cons, added]
    exact ih (fun g listed => accepted g (by simp [listed])) next

/-- A group that fails behind accepted ones ends the loop with its own error. -/
theorem foldlM_fails {before : List Group} (accepted : ∀ g ∈ before, g.IsAccepted)
    (fails : group.Fails e) (after : List Group) (query : ConditionSet) :
    (before ++ group :: after).foldlM addTo query = .error e := by
  obtain ⟨next, added⟩ := foldlM_accepted accepted query
  rw [List.foldlM_append, added]
  change (group :: after).foldlM addTo next = .error e
  rw [List.foldlM_cons, addTo_fails fails]
  rfl

/-- The first of the groups that is not accepted fails with this. -/
def FirstFails (groups : List Group) (e : QueryError) : Prop :=
  ∃ before group after, groups = before ++ group :: after ∧ (∀ g ∈ before, g.IsAccepted) ∧
    group.Fails e

theorem FirstFails.foldlM_addTo {groups : List Group} (fails : FirstFails groups e)
    (query : ConditionSet) : groups.foldlM addTo query = .error e := by
  obtain ⟨before, group, after, rfl, accepted, fails⟩ := fails
  exact foldlM_fails accepted fails after query

theorem all_accepted_or_firstFails (groups : List Group) :
    (∀ g ∈ groups, g.IsAccepted) ∨ ∃ e, FirstFails groups e := by
  induction groups with
  | nil => exact .inl nofun
  | cons first rest ih =>
    rcases first.accepted_or_fails with accepted | ⟨e, fails⟩
    · rcases ih with all | ⟨e, before, group, after, rfl, passed, fails⟩
      · exact .inl (by simpa using ⟨accepted, all⟩)
      · exact .inr ⟨e, first :: before, group, after, rfl, by simpa using ⟨accepted, passed⟩, fails⟩
    · exact .inr ⟨e, [], first, rest, rfl, nofun, fails⟩

end Group

namespace TakesConditions

theorem addGroups_eq_foldlM (takes : TakesConditions name switch add) (query : ConditionSet)
    (groups : List (List String)) :
    addGroups switch add query groups = (groups.map (⟨switch, ·⟩)).foldlM Group.addTo query := by
  have adds (query : ConditionSet) (condition : Condition) : add query condition =
      condition.checked.map fun condition => query.withConditions switch [condition] := by
    cases takes <;> rfl
  induction groups generalizing query with
  | nil => rfl
  | cons group rest ih =>
    rw [List.map_cons, List.foldlM_cons, addGroups, Group.addTo]
    cases conditionOf switch group with
    | error e => rfl
    | ok condition =>
      simp only [adds]
      cases condition.checked with
      | error e => rfl
      | ok condition => exact ih _

theorem addGroups_given (takes : TakesConditions name switch add) {wordings : List Wording}
    {groups : List (List String)} (given : List.Forall₂ Wording.Given wordings groups)
    (valid : ∀ w ∈ wordings, w.token ∈ Operator.tokens) (query : ConditionSet) :
    addGroups switch add query groups =
      .ok (query.withConditions switch (wordings.map Wording.condition)) := by
  apply takes.addGroups_eq
  · rw [List.forall₂_map_left_iff]
    exact given.imp fun _ _ given => conditionOf_given given switch
  · intro c listed
    obtain ⟨w, member, rfl⟩ := List.mem_map.mp listed
    exact Wording.isValid_iff.mpr (valid w member)

end TakesConditions

/-! The query of a request, and the run. -/

theorem exists_wordings {groups : List (List String)}
    (accepted : ∀ group ∈ groups, Group.IsAccepted ⟨switch, group⟩) :
    ∃ wordings : List Wording, List.Forall₂ Wording.Given wordings groups ∧
      ∀ w ∈ wordings, w.token ∈ Operator.tokens := by
  induction groups with
  | nil => exact ⟨[], .nil, nofun⟩
  | cons group rest ih =>
    obtain ⟨wording, given, listed⟩ := accepted group (by simp)
    obtain ⟨wordings, all, valid⟩ := ih fun group listed => accepted group (by simp [listed])
    exact ⟨wording :: wordings, .cons given all, by simpa using ⟨listed, valid⟩⟩

namespace Request

variable {request : Request}

theorem query_eq_foldlM (request : Request) (configured : Option String) :
    request.query configured = request.groups.foldlM Group.addTo
      ⟨[], [], (configured.map Value.text).toList ++ request.verbatim, request.nested⟩ := by
  rw [groups, List.foldlM_append, ← TakesConditions.required.addGroups_eq_foldlM, query]
  cases addGroups .required ConditionSet.require _ request.required with
  | error e => rfl
  | ok query => exact TakesConditions.alternative.addGroups_eq_foldlM query request.alternatives

theorem query_accepted (accepted : ∀ g ∈ request.groups, g.IsAccepted) (configured : Option String) :
    ∃ required alternatives : List Wording, List.Forall₂ Wording.Given required request.required ∧
      List.Forall₂ Wording.Given alternatives request.alternatives ∧
      request.query configured = .ok
        { required := required.map Wording.condition
          alternatives := alternatives.map Wording.condition
          verbatim := (configured.map Value.text).toList ++ request.verbatim
          nested := request.nested } := by
  have inRequired (group : List String) (listed : group ∈ request.required) :
      Group.IsAccepted ⟨.required, group⟩ :=
    accepted _ (List.mem_append_left _ (List.mem_map_of_mem listed))
  have inAlternatives (group : List String) (listed : group ∈ request.alternatives) :
      Group.IsAccepted ⟨.alternative, group⟩ :=
    accepted _ (List.mem_append_right _ (List.mem_map_of_mem listed))
  obtain ⟨required, given, valid⟩ := exists_wordings inRequired
  obtain ⟨alternatives, given', valid'⟩ := exists_wordings inAlternatives
  refine ⟨required, alternatives, given, given', ?_⟩
  simp only [query, TakesConditions.required.addGroups_given given valid,
    TakesConditions.alternative.addGroups_given given' valid']
  simp [ConditionSet.withConditions]

/-- The filter that the environment adds to a search. -/
def configured (request : Request) (environment : Environment) : Option String :=
  if request.search then (environment "LDAP_FILTER").bind Settings.standardFilter else none

end Request

/-- How a request ends that describes no query. -/
def QueryError.report : QueryError → Report
  | .usage e => ⟨.exited 2, "", e.report, [], []⟩
  | .invalidOperator e =>
    ⟨.returned 2, "", "[ERROR] " ++ (e.message ++ " (supported: " ++
      String.intercalate " " Operator.tokens ++ ")") ++ "\n", [], [refusedOperator e]⟩

/-- How a search ends whose time limit is no number. -/
def timeLimitReport (e : InvalidTimeLimit) : Report :=
  ⟨.returned 2, "", "[ERROR] " ++ ("Invalid configuration: " ++ e.message) ++ "\n", [],
    [refusedTimeLimit e]⟩

theorem withQuery_failed (verbose : Bool) {request : Request}
    (failed : request.query configured = .error e) (go : ConditionSet → String → Report) :
    withQuery verbose request configured go = e.report := by
  cases e with
  | usage e => simp only [withQuery, failed, QueryError.report, Refusal.report]
  | invalidOperator e =>
    simp only [withQuery, failed, QueryError.report, logged]
    rw [refusedOperator, transcript_errorRecord]

theorem run_failed {request : Request} (parsed : Request.ofArguments arguments = .ok request)
    (unlisted : request.operators = false)
    (acceptable : request.search = true →
      ∃ limit, Settings.timeLimitOf ((environment "LDAP_TIMEOUT").getD "") = .ok limit)
    (failed : request.query (request.configured environment) = .error e) (directory : Directory) :
    run directory environment arguments = e.report := by
  rw [run, parsed]
  simp only [carryOut, unlisted, Bool.false_eq_true, if_false]
  unfold Request.configured at failed
  cases search : request.search with
  | false =>
    simp only [search, Bool.false_eq_true, if_false] at failed ⊢
    exact withQuery_failed _ failed _
  | true =>
    obtain ⟨limit, accepted⟩ := acceptable search
    simp only [search, if_true, Settings.ofEnvironment, accepted, Except.map] at failed ⊢
    exact withQuery_failed _ failed _

theorem carryOut_refusedTimeLimit {request : Request} (unlisted : request.operators = false)
    (search : request.search = true)
    (refused : Settings.timeLimitOf ((environment "LDAP_TIMEOUT").getD "") = .error e)
    (directory : Directory) :
    carryOut directory environment request = timeLimitReport e := by
  simp only [carryOut, unlisted, search, Bool.false_eq_true, if_false, if_true, Settings.ofEnvironment,
    refused, Except.map, logged, timeLimitReport]
  rw [refusedTimeLimit, transcript_errorRecord]

/-- Without a group that fails, the query of a request holds exactly what its groups describe. Otherwise
the first group that fails decides, the required ones coming before the alternatives wherever they stand. A
search with a time limit that is no number comes to none of them. -/
theorem first_failing_group_decides (parsed : Request.ofArguments arguments = .ok request)
    (unlisted : request.operators = false) (directory : Directory) (environment : Environment) :
    (∃ list, ReadAs arguments list request ∧
      request.required = list.filterMap (Portion.group? .required) ∧
      request.alternatives = list.filterMap (Portion.group? .alternative)) ∧
    (∀ e, request.search = true →
      Settings.timeLimitOf ((environment "LDAP_TIMEOUT").getD "") = .error e →
      run directory environment arguments = timeLimitReport e ∧
      ∀ required alternatives,
        carryOut directory environment { request with required, alternatives } = timeLimitReport e) ∧
    ((request.search = true →
        ∃ limit, Settings.timeLimitOf ((environment "LDAP_TIMEOUT").getD "") = .ok limit) →
      ((∀ g ∈ request.groups, g.IsAccepted) ∨ ∃ e, Group.FirstFails request.groups e) ∧
      ((∀ g ∈ request.groups, g.IsAccepted) →
        ∃ required alternatives : List Wording,
          List.Forall₂ Wording.Given required request.required ∧
          List.Forall₂ Wording.Given alternatives request.alternatives ∧
          request.query (request.configured environment) = .ok
            { required := required.map Wording.condition
              alternatives := alternatives.map Wording.condition
              verbatim := ((request.configured environment).map Value.text).toList ++ request.verbatim
              nested := request.nested }) ∧
      ∀ e, Group.FirstFails request.groups e →
        request.query (request.configured environment) = .error e ∧
        run directory environment arguments = e.report) := by
  refine ⟨?_, ?_, ?_⟩
  · obtain ⟨list, read⟩ := exists_readAs parsed
    exact ⟨list, read, Draft.groupsOf_carryOutAll .required read.carried,
      Draft.groupsOf_carryOutAll .alternative read.carried⟩
  · intro e search refused
    refine ⟨?_, fun required alternatives => ?_⟩
    · rw [run, parsed]
      exact carryOut_refusedTimeLimit unlisted search refused directory
    · exact carryOut_refusedTimeLimit ‹_› ‹_› refused directory
  · intro acceptable
    refine ⟨Group.all_accepted_or_firstFails _,
      fun accepted => Request.query_accepted accepted _, fun e fails => ?_⟩
    have failed : request.query (request.configured environment) = .error e := by
      rw [Request.query_eq_foldlM, fails.foldlM_addTo]
    exact ⟨failed, run_failed parsed unlisted acceptable failed directory⟩

/-- Three groups that fail, one of them an alternative in front of all others. -/
def mixed : List String :=
  ["--or-where", "cn", "like", "x", "--where", "uid = -1", "--where", "solo", "--nested", "--where", "a",
    "b", "c", "d"]

/-- What `--or-where cn = x --search --raw (c=d) --where "n >= 1"` asks for. -/
def interleaved : Request := ⟨[["n >= 1"]], [["cn", "=", "x"]], [.text "(c=d)"], false, false, true⟩

theorem first_failing_group_of_mixed :
    (run (fun _ => .error ⟨"down"⟩) (fun _ => some "soon") mixed =
        QueryError.report (.usage (.malformed .required ["solo"])) ∧
      run (fun _ => .error ⟨"down"⟩) (fun _ => some "soon") ("--search" :: mixed) =
        timeLimitReport ⟨"soon"⟩) ∧
      ∃ required alternatives : List Wording,
        List.Forall₂ Wording.Given required [["n >= 1"]] ∧
        List.Forall₂ Wording.Given alternatives [["cn", "=", "x"]] ∧
        interleaved.query (some "(a=b)") = .ok ⟨required.map Wording.condition,
          alternatives.map Wording.condition, [.text "(a=b)", .text "(c=d)"], false⟩ := by
  have parsed : Request.ofArguments mixed = .ok
      ⟨[["uid = -1"], ["solo"], ["a", "b", "c", "d"]], [["cn", "like", "x"]], [], true, false, false⟩ :=
    rfl
  have uid : Group.IsAccepted ⟨.required, ["uid = -1"]⟩ := by
    refine ⟨⟨"uid", "=", some "-1"⟩, .quoted ?_, by decide⟩
    exact .valued (show IsBlanks [] by decide) (by decide) (show IsGap [' '] by decide) (by decide)
      (show IsGap [' '] by decide) (by decide) (by decide)
  have solo : ¬IsCondition ["solo"] := by
    rintro (two | three | ⟨text, same, several⟩)
    · cases two
    · cases three
    · obtain rfl := List.singleton_inj.mp same
      exact absurd several (by decide)
  refine ⟨⟨?_, ?_⟩, ?_⟩
  · obtain ⟨_, _, groups⟩ := first_failing_group_decides parsed rfl (fun _ => .error ⟨"down"⟩)
      fun _ => some "soon"
    obtain ⟨_, _, decided⟩ := groups nofun
    exact (decided _ ⟨[⟨.required, ["uid = -1"]⟩], ⟨.required, ["solo"]⟩, _, rfl, by simpa using uid,
      .malformed solo⟩).2
  · obtain ⟨_, refused, _⟩ := first_failing_group_decides (ofArguments_search parsed) rfl
      (fun _ => .error ⟨"down"⟩) fun _ => some "soon"
    exact (refused ⟨"soon"⟩ rfl rfl).1
  · have parsed : Request.ofArguments
        ["--or-where", "cn", "=", "x", "--search", "--raw", "(c=d)", "--where", "n >= 1"] =
        .ok interleaved := rfl
    obtain ⟨_, _, groups⟩ := first_failing_group_decides parsed rfl (fun _ => .error ⟨"down"⟩)
      fun name => if name = "LDAP_FILTER" then some " a=b" else none
    obtain ⟨_, described, _⟩ := groups fun _ => ⟨_, rfl⟩
    apply described
    have n : Group.IsAccepted ⟨.required, ["n >= 1"]⟩ := by
      refine ⟨⟨"n", ">=", some "1"⟩, .quoted ?_, by decide⟩
      exact .valued (show IsBlanks [] by decide) (by decide) (show IsGap [' '] by decide) (by decide)
        (show IsGap [' '] by decide) (by decide) (by decide)
    have cn : Group.IsAccepted ⟨.alternative, ["cn", "=", "x"]⟩ :=
      ⟨⟨"cn", "=", some "x"⟩, .separate, by decide⟩
    simpa [interleaved, Request.groups] using ⟨n, cn⟩

end DirectoryQuery.CommandLine
