import DirectoryQuery.CommandLine.Query
import DirectoryQuery.Directory.Search
import DirectoryQuery.Settings

/-! A run of the program: from its arguments and environment, and the behaviour of the directory, to
how it ends, what it writes, and the calls it makes. -/
namespace DirectoryQuery.CommandLine

inductive Ending
  /-- The program has done its work, or has logged why it cannot. -/
  | returned (status : Nat)
  /-- The arguments ask for help, or do not fit. -/
  | exited (status : Nat)
  /-- An error of the search gets through. -/
  | failed (e : SearchError)
  deriving Repr

structure Report where
  ending : Ending
  out : String
  err : String
  calls : List Call
  log : List Log.Record

def Refusal.report : Refusal → Report
  | .help => ⟨.exited 0, helpText, "", [], []⟩
  | .usage e => ⟨.exited 2, "", e.report, [], []⟩

def loggers (verbose : Bool) : Log.Loggers := Log.Loggers.initial.setUp verbose

/-- A report whose error output is the transcript of its log. -/
def logged (verbose : Bool) (ending : Ending) (out : String) (calls : List Call)
    (log : List Log.Record) : Report :=
  ⟨ending, out, (loggers verbose).transcript log, calls, log⟩

def errorRecord (message : String) : Log.Record := ⟨Log.application, .error, message⟩
def infoRecord (message : String) : Log.Record := ⟨Log.application, .info, message⟩

def line (s : String) : String := s ++ "\n"

def operatorList : String := String.join (Operator.tokens.map line)

def refusedTimeLimit (e : InvalidTimeLimit) : Log.Record :=
  errorRecord ("Invalid configuration: " ++ e.message)

def refusedOperator (e : InvalidOperator) : Log.Record :=
  errorRecord (e.message ++ " (supported: " ++ String.intercalate " " Operator.tokens ++ ")")

def searchStart (settings : Settings) : Log.Record :=
  infoRecord ("Searching " ++ settings.host ++ " under " ++
    (if settings.base = "" then "<root>" else settings.base))

def searchEnd (entries : List Entry) : Log.Record :=
  infoRecord ("Found " ++ toString entries.length ++ " entries")

/-- The connection that the settings describe. -/
def connection (settings : Settings) : Connection :=
  ⟨Server.ofHost settings.host settings.ignoresCertificate settings.authorityFile, settings.user,
    settings.password, settings.timeLimit⟩

def search (directory : Directory) (verbose : Bool) (settings : Settings) (query : ConditionSet) :
    Report :=
  let report := query.search (.opened directory (connection settings))
    ⟨settings.base, settings.attributes⟩
  let log := query.filterLog ++ searchStart settings :: report.log
  match report.outcome with
  | .ok entries =>
    logged verbose (.returned 0) (String.join (entries.map fun entry => line entry.name))
      report.calls (log ++ [searchEnd entries])
  | .error e => logged verbose (.failed e) "" report.calls log

/-- Compiles the query of a request, and hands it on with its filter. -/
def withQuery (verbose : Bool) (request : Request) (configured : Option String)
    (go : ConditionSet → String → Report) : Report :=
  match request.query configured with
  | .error (.usage e) => Refusal.report (.usage e)
  | .error (.invalidOperator e) => logged verbose (.returned 2) "" [] [refusedOperator e]
  | .ok query =>
    match query.filter with
    | .error e => logged verbose (.returned 2) "" [] [refusedOperator e]
    | .ok filter => go query filter

def compile (verbose : Bool) (request : Request) : Report :=
  withQuery verbose request none fun query filter =>
    logged verbose (.returned 0) (line filter) [] query.filterLog

def carryOut (directory : Directory) (environment : Environment) (request : Request) : Report :=
  let verbose := Settings.isVerbose environment
  if request.operators then logged verbose (.returned 0) operatorList [] []
  else if request.search then
    match Settings.ofEnvironment environment with
    | .error e => logged verbose (.returned 2) "" [] [refusedTimeLimit e]
    | .ok settings =>
      withQuery verbose request settings.filter fun query _ =>
        search directory verbose settings query
  else compile verbose request

def run (directory : Directory) (environment : Environment) (arguments : List String) : Report :=
  match Request.ofArguments arguments with
  | .error refusal => refusal.report
  | .ok request => carryOut directory environment request

end DirectoryQuery.CommandLine
