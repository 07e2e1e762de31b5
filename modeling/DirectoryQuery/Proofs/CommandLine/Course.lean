import DirectoryQuery.CommandLine.Run
import DirectoryQuery.Proofs.CommandLine.Query

/-! The courses that a run can take. The arguments, the settings and the query are looked at in this
order, and the first of them that does not fit ends the run. -/
namespace DirectoryQuery.CommandLine

/-- A request is refused for a group of its arguments, or its query is handed on with a filter. -/
theorem withQuery_cases (verbose : Bool) (request : Request) (configured : Option String)
    (go : ConditionSet → String → Report) :
    (∃ e, request.query configured = .error (.usage e) ∧
      withQuery verbose request configured go = Refusal.report (.usage e)) ∨
    (∃ e, request.query configured = .error (.invalidOperator e) ∧
      withQuery verbose request configured go =
        logged verbose (.returned 2) "" [] [refusedOperator e]) ∨
    ∃ query text, request.query configured = .ok query ∧ query.filter = .ok text ∧
      withQuery verbose request configured go = go query text := by
  unfold withQuery
  split
  · rename_i e failed
    exact Or.inl ⟨e, failed, rfl⟩
  · rename_i e failed
    exact Or.inr (Or.inl ⟨e, failed, rfl⟩)
  · rename_i query built
    obtain ⟨text, ok⟩ := ConditionSet.filter_of_valid (firstInvalid?_query built)
    exact Or.inr (Or.inr ⟨query, text, built, ok, by simp only [ok]⟩)

/-- A command line that is compiled: its request, and the query and the filter that this describes. -/
structure Compiles (arguments : List String) (request : Request) (query : ConditionSet)
    (text : String) : Prop where
  parsed : Request.ofArguments arguments = .ok request
  operators : request.operators = false
  search : request.search = false
  built : request.query none = .ok query
  ok : query.filter = .ok text

/-- Then the filter is printed, whatever the environment and the directory are. -/
theorem Compiles.run_eq (compiles : Compiles arguments request query text) (directory : Directory)
    (environment : Environment) :
    run directory environment arguments =
      logged (Settings.isVerbose environment) (.returned 0) (line text) [] query.filterLog := by
  simp only [run, compiles.parsed, carryOut, compiles.operators, compiles.search, compile, withQuery,
    compiles.built, compiles.ok, Bool.false_eq_true, if_false]

/-- A run with these settings that comes to search for this query. -/
structure Searches (environment : Environment) (arguments : List String) (settings : Settings)
    (request : Request) (query : ConditionSet) : Prop where
  parsed : Request.ofArguments arguments = .ok request
  search : request.search = true
  operators : request.operators = false
  configured : Settings.ofEnvironment environment = .ok settings
  built : request.query settings.filter = .ok query

theorem Searches.compiled (searches : Searches environment arguments settings request query) :
    ∃ text, query.filter = .ok text :=
  ConditionSet.filter_of_valid (firstInvalid?_query searches.built)

/-- Then the run is the search for this query. -/
theorem Searches.run_eq (searches : Searches environment arguments settings request query)
    (directory : Directory) :
    run directory environment arguments =
      CommandLine.search directory (Settings.isVerbose environment) settings query := by
  obtain ⟨text, compiled⟩ := searches.compiled
  simp only [run, searches.parsed, carryOut, searches.search, searches.operators,
    searches.configured, withQuery, searches.built, compiled, Bool.false_eq_true, if_false, if_true]

/-- A course of a run, and what is reported in the end. -/
inductive Course (directory : Directory) (environment : Environment) (arguments : List String) :
    Report → Prop
  | helped (parsed : Request.ofArguments arguments = .error .help) :
      Course directory environment arguments (Refusal.report .help)
  | misused (parsed : Request.ofArguments arguments = .error (.usage e)) :
      Course directory environment arguments (Refusal.report (.usage e))
  | listed (parsed : Request.ofArguments arguments = .ok request)
      (operators : request.operators = true) :
      Course directory environment arguments
        (logged (Settings.isVerbose environment) (.returned 0) operatorList [] [])
  | unconfigured (parsed : Request.ofArguments arguments = .ok request)
      (operators : request.operators = false) (search : request.search = true)
      (refused : Settings.ofEnvironment environment = .error e) :
      Course directory environment arguments
        (logged (Settings.isVerbose environment) (.returned 2) "" [] [refusedTimeLimit e])
  | malformed (parsed : Request.ofArguments arguments = .ok request)
      (operators : request.operators = false) (failed : request.query configured = .error (.usage e)) :
      Course directory environment arguments (Refusal.report (.usage e))
  | rejected (parsed : Request.ofArguments arguments = .ok request)
      (operators : request.operators = false)
      (failed : request.query configured = .error (.invalidOperator e)) :
      Course directory environment arguments
        (logged (Settings.isVerbose environment) (.returned 2) "" [] [refusedOperator e])
  | compiled (compiles : Compiles arguments request query text) :
      Course directory environment arguments
        (logged (Settings.isVerbose environment) (.returned 0) (line text) [] query.filterLog)
  | searched (searches : Searches environment arguments settings request query) :
      Course directory environment arguments
        (search directory (Settings.isVerbose environment) settings query)

variable {request : Request}

theorem course_of_search (parsed : Request.ofArguments arguments = .ok request)
    (operators : request.operators = false) (search : request.search = true) (directory : Directory)
    (environment : Environment) :
    Course directory environment arguments (carryOut directory environment request) := by
  simp only [carryOut, operators, search, Bool.false_eq_true, if_false, if_true]
  cases configured : Settings.ofEnvironment environment with
  | error e => exact .unconfigured parsed operators search configured
  | ok settings =>
    dsimp only
    rcases withQuery_cases (Settings.isVerbose environment) request settings.filter
        fun query _ => CommandLine.search directory (Settings.isVerbose environment) settings query
      with ⟨e, failed, report⟩ | ⟨e, failed, report⟩ | ⟨query, text, built, ok, report⟩
    · rw [report]
      exact .malformed parsed operators failed
    · rw [report]
      exact .rejected parsed operators failed
    · rw [report]
      exact .searched ⟨parsed, search, operators, configured, built⟩

theorem course_of_compile (parsed : Request.ofArguments arguments = .ok request)
    (operators : request.operators = false) (search : request.search = false) (directory : Directory)
    (environment : Environment) :
    Course directory environment arguments (carryOut directory environment request) := by
  simp only [carryOut, operators, search, Bool.false_eq_true, if_false, compile]
  rcases withQuery_cases (Settings.isVerbose environment) request none
      fun query text => logged (Settings.isVerbose environment) (.returned 0) (line text) []
        query.filterLog
    with ⟨e, failed, report⟩ | ⟨e, failed, report⟩ | ⟨query, text, built, ok, report⟩
  · rw [report]
    exact .malformed parsed operators failed
  · rw [report]
    exact .rejected parsed operators failed
  · rw [report]
    exact .compiled ⟨parsed, operators, search, built, ok⟩

/-- Every run takes one of the courses. -/
theorem run_course (directory : Directory) (environment : Environment) (arguments : List String) :
    Course directory environment arguments (run directory environment arguments) := by
  unfold run
  cases parsed : Request.ofArguments arguments with
  | error refusal =>
    cases refusal with
    | help => exact .helped parsed
    | usage e => exact .misused parsed
  | ok request =>
    dsimp only
    cases operators : request.operators with
    | true =>
      simp only [carryOut, operators, if_true]
      exact .listed parsed operators
    | false =>
      cases search : request.search with
      | true => exact course_of_search parsed operators search directory environment
      | false => exact course_of_compile parsed operators search directory environment

/-- Only a run that comes to search makes any call. -/
theorem searches_of_calls (called : (run directory environment arguments).calls ≠ []) :
    ∃ settings request query, Searches environment arguments settings request query := by
  have course := run_course directory environment arguments
  generalize run directory environment arguments = report at called course
  cases course with
  | searched searches => exact ⟨_, _, _, searches⟩
  | helped | misused | listed | unconfigured | malformed | rejected | compiled =>
    exact absurd rfl called

end DirectoryQuery.CommandLine
