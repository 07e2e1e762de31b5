import DirectoryQuery.Proofs.CommandLine.Course
import DirectoryQuery.Proofs.CommandLine.Drafts
import DirectoryQuery.Proofs.Directory.SentFilters

/-! What the environment has influence on. Two runs with the same arguments are compared report by report.
Unless the arguments ask for a search, and not for the operators, no variable but the one for debugging
makes any difference, and that one only to how much of the log is shown. If they do, the password makes
none but to the call that hands it over, as long as the directory does not look at it. -/
namespace DirectoryQuery

namespace CommandLine

variable {change : Call → Call} {verbose outspoken : Bool}

/-- The second report tells the same as the first, of calls that have been changed. The log is the same,
and so is what is shown of it if both runs show as much. -/
structure Alike (change : Call → Call) (verbose outspoken : Bool) (report other : Report) : Prop where
  ending : other.ending = report.ending
  out : other.out = report.out
  err : verbose = outspoken → other.err = report.err
  log : other.log = report.log
  calls : other.calls = report.calls.map change

theorem Alike.refused (refusal : Refusal) :
    Alike change verbose outspoken refusal.report refusal.report := by
  cases refusal
  all_goals exact ⟨rfl, rfl, fun _ => rfl, rfl, rfl⟩

theorem Alike.logged (ending : Ending) (out : String) (calls : List Call) (log : List Log.Record) :
    Alike change verbose outspoken (logged verbose ending out calls log)
      (logged outspoken ending out (calls.map change) log) := by
  refine ⟨rfl, rfl, ?_, rfl, rfl⟩
  rintro rfl
  rfl

/-- Two runs that look at the same query are alike if they go on alike. -/
theorem Alike.withQuery {go goes : ConditionSet → String → Report}
    (alike : ∀ query text, Alike change verbose outspoken (go query text) (goes query text))
    (request : Request) (configured : Option String) :
    Alike change verbose outspoken (withQuery verbose request configured go)
      (withQuery outspoken request configured goes) := by
  unfold CommandLine.withQuery
  -- The query is looked at before anything that may differ, so that both runs take the same branch.
  split
  · exact .refused _
  · exact .logged _ _ [] _
  · split
    · exact .logged _ _ [] _
    · exact alike _ _

theorem Alike.compile (request : Request) :
    Alike change verbose outspoken (compile verbose request) (compile outspoken request) := by
  refine .withQuery ?_ request none
  intro query text
  exact .logged _ _ [] _

/-- A run that does not come to the settings is carried out in the same way in any environment. -/
theorem alike_of_unsearched {request : Request}
    (unasked : request.search = false ∨ request.operators = true) (directory other : Directory)
    (environment changed : Environment) :
    Alike id (Settings.isVerbose environment) (Settings.isVerbose changed)
      (carryOut directory environment request) (carryOut other changed request) := by
  unfold carryOut
  cases operators : request.operators with
  | true => exact .logged _ _ [] _
  | false =>
    have unsearched : request.search = false := by simpa [operators] using unasked
    simp only [unsearched, Bool.false_eq_true, if_false]
    exact .compile request

/-- What is not asked to search runs the same whatever the settings of a search are, and makes no call.
Debugging changes what is shown of the log, and nothing else. -/
theorem run_without_settings {arguments : List String}
    (unasked : ∀ request, Request.ofArguments arguments = .ok request →
      request.search = false ∨ request.operators = true) :
    ∀ directory other environment changed,
      let report := run directory environment arguments
      let again := run other changed arguments
      again.ending = report.ending ∧ again.out = report.out ∧ again.log = report.log ∧
        (Settings.isVerbose environment = Settings.isVerbose changed → again.err = report.err) ∧
        report.calls = [] ∧ again.calls = [] := by
  intro directory other environment changed
  have alike : Alike id (Settings.isVerbose environment) (Settings.isVerbose changed)
      (run directory environment arguments) (run other changed arguments) := by
    unfold run
    cases parsed : Request.ofArguments arguments with
    | error refusal => exact .refused refusal
    | ok request => exact alike_of_unsearched (unasked request parsed) directory other _ _
  have silent (directory : Directory) (environment : Environment) :
      (run directory environment arguments).calls = [] := by
    by_contra called
    obtain ⟨settings, request, query, searches⟩ := searches_of_calls called
    rcases unasked request searches.parsed with absent | given
    · exact absurd (absent.symm.trans searches.search) (by decide)
    · exact absurd (given.symm.trans searches.operators) (by decide)
  exact ⟨alike.ending, alike.out, alike.log, alike.err, silent _ _, silent _ _⟩

/-- Settings that are refused, but for debugging. -/
def misconfigured : Environment := fun name =>
  if name = "LDAP_TIMEOUT" then some "soon"
  else if name = "LDAP_FILTER" then some "(uid=j)"
  else if name = "DEBUG" then some "Yes"
  else none

def debugged : Environment := fun name => if name = "DEBUG" then some "on" else none

/-- A disjunction, which a configured filter would turn into a conjunction. -/
def twoAlternatives : List String := ["--or-where", "a", "=", "1", "--or-where", "b = 2"]

theorem misconfigured_compiles :
    (¬Gives twoAlternatives .search ∧ Settings.isVerbose debugged = Settings.isVerbose misconfigured) ∧
      (∃ e, Settings.ofEnvironment misconfigured = .error e) ∧
      let report := run (fun _ => .error ⟨"down"⟩) misconfigured twoAlternatives
      report.ending = .returned 0 ∧ report.out = line "(|(a=1)(b=2))" ∧
        report.err = "[DEBUG] Compiled LDAP filter: (|(a=1)(b=2))\n" ∧ report.calls = [] := by
  have absent : ¬Gives twoAlternatives .search := by decide
  have verbose : Settings.isVerbose debugged = Settings.isVerbose misconfigured := by decide
  have unasked (request : Request) (parsed : Request.ofArguments twoAlternatives = .ok request) :
      request.search = false ∨ request.operators = true :=
    .inl (Bool.eq_false_iff.mpr (mt (search_iff_gives parsed).mp absent))
  obtain ⟨ending, out, _, err, _, calls⟩ := run_without_settings unasked
    (fun _ => .ok fun _ => .ok []) (fun _ => .error ⟨"down"⟩) debugged misconfigured
  exact ⟨⟨absent, verbose⟩, ⟨_, rfl⟩, ending.trans rfl, out.trans rfl, (err verbose).trans rfl,
    calls⟩

end CommandLine

/-! The password goes from the environment through the settings to the connection. -/

def Connection.withPassword (connection : Connection) (password : String) : Connection :=
  { connection with password }

def Settings.withPassword (settings : Settings) (password : String) : Settings :=
  { settings with password }

/-- The call with another password, if it hands one over. -/
def Call.withPassword (password : String) : Call → Call
  | .connection opened => .connection (opened.withPassword password)
  | call => call

/-- The directory does the same whatever password it is given. -/
def Directory.IgnoresPassword (directory : Directory) : Prop :=
  ∀ connection password, directory (connection.withPassword password) = directory connection

/-- The report with its calls changed. -/
def SearchReport.mapCalls (change : Call → Call) (report : SearchReport) : SearchReport :=
  { report with calls := report.calls.map change }

variable {directory : Directory} {environment changed : Environment} {arguments : List String}

theorem Server.calls_withPassword (server : Server) (password : String) :
    server.calls.map (.withPassword password) = server.calls := by
  unfold calls
  cases server.tls <;> rfl

theorem SearchReport.onSource_withPassword (blind : directory.IgnoresPassword)
    (connection : Connection) (password : String) (request : SearchRequest) :
    onSource (.opened directory (connection.withPassword password)) request =
      (onSource (.opened directory connection) request).mapCalls (.withPassword password) := by
  have opening : (connection.server.calls ++ [Call.connection connection]).map (.withPassword password) =
      connection.server.calls ++ [.connection (connection.withPassword password)] := by
    rw [List.map_append, Server.calls_withPassword]
    rfl
  simp only [onSource, blind connection password]
  cases directory connection with
  | error e => simp only [mapCalls, opening]; rfl
  | ok access =>
    have searched : (onAccess access request).calls.map (.withPassword password) =
        (onAccess access request).calls := by
      rw [calls_onAccess]
      rfl
    simp only [mapCalls, enclosed, List.map_append, opening, searched]
    rfl

theorem ConditionSet.search_withPassword (blind : directory.IgnoresPassword) (query : ConditionSet)
    (connection : Connection) (password : String) (scope : SearchScope) :
    query.search (.opened directory (connection.withPassword password)) scope =
      (query.search (.opened directory connection) scope).mapCalls (.withPassword password) := by
  unfold search
  cases query.filter with
  | error e => rfl
  | ok text =>
    simp only [SearchReport.onSource_withPassword blind]
    rfl

namespace Settings

variable (elsewhere : ∀ name, name ≠ "LDAP_BIND_PASSWORD" → changed name = environment name)
include elsewhere

theorem isVerbose_eq_of_elsewhere : isVerbose changed = isVerbose environment := by
  simp [isVerbose, elsewhere]

/-- Only the password comes from its variable. -/
theorem ofEnvironment_eq_of_elsewhere :
    ofEnvironment changed =
      (ofEnvironment environment).map (·.withPassword ((changed "LDAP_BIND_PASSWORD").getD "")) := by
  have attributes : attributesIn changed = attributesIn environment := by
    simp [attributesIn, elsewhere]
  have ignores : ignoresCertificateIn changed = ignoresCertificateIn environment := by
    simp [ignoresCertificateIn, elsewhere]
  unfold ofEnvironment
  rw [elsewhere "LDAP_TIMEOUT" (by decide), elsewhere "LDAP_HOST" (by decide),
    elsewhere "LDAP_BIND_DN" (by decide), elsewhere "LDAP_BASE_DN" (by decide),
    elsewhere "LDAP_FILTER" (by decide), elsewhere "LDAP_CA_FILE" (by decide), attributes, ignores,
    isVerbose_eq_of_elsewhere elsewhere]
  cases timeLimitOf ((environment "LDAP_TIMEOUT").getD "") <;> rfl

end Settings

namespace CommandLine

theorem alike_search (blind : directory.IgnoresPassword) (verbose outspoken : Bool)
    (settings : Settings) (password : String) (query : ConditionSet) :
    Alike (.withPassword password) verbose outspoken (search directory verbose settings query)
      (search directory outspoken (settings.withPassword password) query) := by
  have searched := query.search_withPassword blind (connection settings) password
    ⟨settings.base, settings.attributes⟩
  change query.search (.opened directory (connection (settings.withPassword password)))
    ⟨(settings.withPassword password).base, (settings.withPassword password).attributes⟩ = _ at searched
  have started : searchStart (settings.withPassword password) = searchStart settings := rfl
  simp only [search, searched, started, SearchReport.mapCalls]
  cases (query.search (.opened directory (connection settings))
    ⟨settings.base, settings.attributes⟩).outcome with
  | ok entries => exact .logged _ _ _ _
  | error e => exact .logged _ _ _ _

/-- Runs in environments that differ in the password alone are alike but for the call that hands it
over. -/
theorem alike_of_elsewhere (blind : directory.IgnoresPassword)
    (elsewhere : ∀ name, name ≠ "LDAP_BIND_PASSWORD" → changed name = environment name)
    (arguments : List String) :
    Alike (.withPassword ((changed "LDAP_BIND_PASSWORD").getD ""))
      (Settings.isVerbose environment) (Settings.isVerbose changed)
      (run directory environment arguments) (run directory changed arguments) := by
  unfold run
  cases Request.ofArguments arguments with
  | error refusal => exact .refused refusal
  | ok request =>
    dsimp only [carryOut]
    split
    · exact .logged _ _ [] _
    · split
      · rw [Settings.ofEnvironment_eq_of_elsewhere elsewhere]
        cases Settings.ofEnvironment environment with
        | error e => exact .logged _ _ [] _
        | ok settings =>
          refine .withQuery ?_ request settings.filter
          intro query _
          exact alike_search blind _ _ settings _ query
      · exact .compile request

/-- The password reaches the connection and nothing else: with another one, a run ends in the same way,
writes, logs and calls the same, and hands over the other password where it opens a connection. -/
theorem password_reaches_connection_only (blind : directory.IgnoresPassword)
    (elsewhere : ∀ name, name ≠ "LDAP_BIND_PASSWORD" → changed name = environment name)
    (arguments : List String) :
    let report := run directory environment arguments
    let again := run directory changed arguments
    again.ending = report.ending ∧ again.out = report.out ∧ again.err = report.err ∧
      again.log = report.log ∧
      again.calls = report.calls.map (.withPassword ((changed "LDAP_BIND_PASSWORD").getD "")) := by
  have alike := alike_of_elsewhere blind elsewhere arguments
  have verbose : Settings.isVerbose environment = Settings.isVerbose changed :=
    (Settings.isVerbose_eq_of_elsewhere elsewhere).symm
  exact ⟨alike.ending, alike.out, alike.err verbose, alike.log, alike.calls⟩

/-- An environment with this password and with debugging. -/
def keyed (password : Option String) : Environment := fun name =>
  if name = "LDAP_BIND_PASSWORD" then password else if name = "DEBUG" then some "1" else none

theorem keyed_alike :
    let busy : Directory := fun _ => .ok fun _ => .error ⟨"busy"⟩
    let server : Server := ⟨"localhost:389", false, none⟩
    busy.IgnoresPassword ∧
      (∀ name, name ≠ "LDAP_BIND_PASSWORD" → keyed (some "secret") name = keyed none name) ∧
      (run busy (keyed none) ["--search"]).ending = .failed (.failure ⟨"busy"⟩) ∧
      (run busy (keyed (some "secret")) ["--search"]).ending = .failed (.failure ⟨"busy"⟩) ∧
      (run busy (keyed (some "secret")) ["--search"]).err = (run busy (keyed none) ["--search"]).err ∧
      (run busy (keyed (some "secret")) ["--search"]).calls =
        [.server server, .connection ⟨server, "", "secret", .int 5⟩,
          .search ⟨"", "(objectClass=*)", ["cn", "mail"]⟩, .unbind] := by
  intro busy server
  have blind : busy.IgnoresPassword := fun _ _ => rfl
  have elsewhere (name : String) (other : name ≠ "LDAP_BIND_PASSWORD") :
      keyed (some "secret") name = keyed none name := by
    simp [keyed, other]
  obtain ⟨ending, _, err, _, calls⟩ := password_reaches_connection_only blind elsewhere ["--search"]
  exact ⟨blind, elsewhere, rfl, ending.trans rfl, err, calls.trans rfl⟩

end CommandLine

end DirectoryQuery
