import DirectoryQuery.Proofs.CommandLine.Course
import DirectoryQuery.Proofs.CommandLine.Drafts
import DirectoryQuery.Proofs.Directory.LifeCycle
import DirectoryQuery.Proofs.Log

/-! How runs end. A run does its work, gives help, refuses what it is given with status 2, or fails with
what the directory raised. It refuses before anything is written or called, and it says why. Nothing is
asked of a directory unless the command line asks for a search and not for the operators. -/
namespace DirectoryQuery

/-- The directory raises this, on opening a connection among the calls or on a search among them. -/
inductive Failure.RaisedBy (e : Failure) (directory : Directory) (calls : List Call) : Prop
  | opening (called : .connection connection ∈ calls) (answer : directory connection = .error e)
  | searching (opened : .connection connection ∈ calls) (called : .search request ∈ calls)
      (bound : directory connection = .ok access) (answer : access request = .error e)

/-- A search for a query with a filter fails with nothing but what the directory raises. -/
theorem ConditionSet.raised_of_search {query : ConditionSet} (compiled : query.filter = .ok text)
    {directory : Directory} {connection : Connection} {scope : SearchScope}
    (failed : (query.search (.opened directory connection) scope).outcome = .error e) :
    ∃ failure, e = .failure failure ∧
      failure.RaisedBy directory (query.search (.opened directory connection) scope).calls := by
  obtain ⟨calls, outcome⟩ := search_of_compiled compiled (.opened directory connection) scope
  rw [outcome] at failed
  rw [calls]
  cases answer : directory connection with
  | error failure =>
    rw [SearchReport.outcome_refused answer] at failed
    rw [SearchReport.calls_refused answer]
    refine ⟨failure, (Except.error.inj failed).symm, .opening ?_ answer⟩
    simp [SearchReport.opening]
  | ok access =>
    rw [SearchReport.outcome_bound answer] at failed
    rw [SearchReport.calls_bound answer]
    cases found : access (SearchReport.request scope text) with
    | ok entries => simp [SearchReport.answered, found] at failed
    | error failure =>
      simp only [SearchReport.answered, found] at failed
      refine ⟨failure, (Except.error.inj failed).symm, .searching ?_ ?_ answer found⟩
      · simp [SearchReport.opening]
      · simp

namespace CommandLine

/-- The status that a run ends with, unless it fails. -/
def Ending.status? : Ending → Option Nat
  | .returned status | .exited status => some status
  | .failed _ => none

/-- What matters at least as much as information is told, with or without debugging. -/
theorem transcript_record {record : Log.Record} (inside : Log.application <+: record.logger)
    (matters : record.level.reaches .info = true) (verbose : Bool) :
    (loggers verbose).transcript [record] =
      "[" ++ record.level.name ++ "] " ++ record.message ++ "\n" := by
  have served : ∀ other ∈ [record], Log.Loggers.initial.Serves other.logger := by
    intro other logged
    rw [List.mem_singleton.mp logged]
    exact Log.Loggers.serves_initial inside
  have chosen : record.level.reaches (Log.chosenLevel verbose) = true := by
    cases verbose with
    | false => exact matters
    | true => exact decide_eq_true (Nat.le_trans (by decide) (of_decide_eq_true matters))
  rw [loggers, Log.Loggers.transcript_setUp served, List.map_singleton, Log.Loggers.due, if_pos chosen]
  simp

theorem transcript_errorRecord (verbose : Bool) (message : String) :
    (loggers verbose).transcript [errorRecord message] = "[ERROR] " ++ message ++ "\n" :=
  transcript_record (List.prefix_refl _) rfl verbose

theorem UsageError.report_ne_blank (e : UsageError) : e.report ≠ "" := by
  intro blank
  simpa [UsageError.report] using congrArg String.toList blank

theorem Searches.ending (searches : Searches environment arguments settings request query)
    (directory : Directory) (verbose : Bool) :
    (CommandLine.search directory verbose settings query).ending = .returned 0 ∨
      ∃ e, (CommandLine.search directory verbose settings query).ending = .failed (.failure e) ∧
        e.RaisedBy directory (CommandLine.search directory verbose settings query).calls := by
  obtain ⟨text, compiled⟩ := searches.compiled
  unfold CommandLine.search
  dsimp only
  split
  · exact .inl rfl
  · rename_i e failed
    obtain ⟨failure, rfl, raised⟩ := ConditionSet.raised_of_search compiled failed
    exact .inr ⟨failure, rfl, raised⟩

namespace Course

variable {directory : Directory} {environment : Environment} {arguments : List String}
  {report : Report}

theorem ending (course : Course directory environment arguments report) :
    report.ending = .returned 0 ∨ report.ending = .returned 2 ∨
      (report.ending = .exited 0 ∧ report.out = helpText) ∨ report.ending = .exited 2 ∨
      ∃ e, report.ending = .failed (.failure e) ∧ e.RaisedBy directory report.calls := by
  cases course with
  | helped => exact .inr (.inr (.inl ⟨rfl, rfl⟩))
  | misused | malformed => exact .inr (.inr (.inr (.inl rfl)))
  | listed | compiled => exact .inl rfl
  | unconfigured | rejected => exact .inr (.inl rfl)
  | searched searches =>
    rcases searches.ending directory (Settings.isVerbose environment) with done | failed
    · exact .inl done
    · exact .inr (.inr (.inr (.inr failed)))

/-- A run that ends with status 2 has said why, and has done nothing else. -/
theorem refused (course : Course directory environment arguments report)
    (status : report.ending.status? = some 2) :
    report.out = "" ∧ report.err ≠ "" ∧ report.calls = [] := by
  cases course with
  | helped | listed | compiled => simp [logged, Refusal.report, Ending.status?] at status
  | misused | malformed => exact ⟨rfl, UsageError.report_ne_blank _, rfl⟩
  | unconfigured | rejected =>
    refine ⟨rfl, ?_, rfl⟩
    simp [logged, refusedTimeLimit, refusedOperator, transcript_errorRecord]
  | searched searches =>
    rcases searches.ending directory (Settings.isVerbose environment) with done | ⟨_, failed, _⟩
    · simp [done, Ending.status?] at status
    · simp [failed, Ending.status?] at status

/-- Only a command line that asks for a search, and not for the operators, leads to calls. -/
theorem calls_eq_nil (course : Course directory environment arguments report)
    (unasked : ¬Gives arguments .search ∨ Gives arguments .operators) : report.calls = [] := by
  cases course with
  | searched searches =>
    rcases unasked with absent | given
    · exact absurd ((search_iff_gives searches.parsed).mp searches.search) absent
    · have asked := (operators_iff_gives searches.parsed).mpr given
      exact absurd (asked.symm.trans searches.operators) (by decide)
  | helped | misused | listed | unconfigured | malformed | rejected | compiled => rfl

end Course

/-- Every run ends cleanly: with its work done, with help, with a refusal that is told before anything
else happens, or with what the directory raised. -/
theorem run_ends_cleanly (directory : Directory) (environment : Environment)
    (arguments : List String) :
    let report := run directory environment arguments
    (report.ending = .returned 0 ∨ report.ending = .returned 2 ∨
      (report.ending = .exited 0 ∧ report.out = helpText) ∨ report.ending = .exited 2 ∨
      ∃ e, report.ending = .failed (.failure e) ∧ e.RaisedBy directory report.calls) ∧
    (report.ending.status? = some 2 → report.out = "" ∧ report.err ≠ "" ∧ report.calls = []) ∧
    (¬Gives arguments .search ∨ Gives arguments .operators → report.calls = []) := by
  have course := run_course directory environment arguments
  exact ⟨course.ending, course.refused, course.calls_eq_nil⟩

/-- By the convention modeled here an attached `--` leaves a group without arguments, which is refused
before any search. -/
example : (run (fun _ => .error ⟨"down"⟩) (fun _ => none) ["--search", "--where=--"]).ending =
    .exited 2 := rfl

end CommandLine

end DirectoryQuery
