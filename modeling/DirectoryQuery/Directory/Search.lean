import DirectoryQuery.ConditionSet.Filter
import DirectoryQuery.Directory.Entry
import DirectoryQuery.Directory.Server

/-! A search compiles a query and puts its filter to a directory. The query is compiled before anything
else happens. A connection that the search opens itself is closed again, whether the directory answers
or fails; one that is handed in stays open. -/
namespace DirectoryQuery

/-- What a search is to look for, beside the query itself. -/
structure SearchScope where
  base : String
  attributes : List String

/-- How a search gets its connection: from its caller, or by opening one. -/
inductive Source
  | given (access : Access)
  | opened (directory : Directory) (connection : Connection)

inductive SearchError
  | invalidOperator (e : InvalidOperator)
  | failure (e : Failure)
  deriving Repr

def SearchError.message : SearchError → String
  | invalidOperator e => e.message
  | failure e => e.message

structure SearchReport where
  outcome : Except SearchError (List Entry)
  calls : List Call
  log : List Log.Record

namespace SearchReport

def matchAll : String := "(objectClass=*)"

/-- The filter that is sent: a query without filters looks for everything. -/
def sent (filter : String) : String := if filter = "" then matchAll else filter

def request (scope : SearchScope) (filter : String) : SearchRequest :=
  ⟨scope.base, sent filter, scope.attributes⟩

def started (request : SearchRequest) : Log.Record :=
  ⟨Log.directory, .debug, "Searching LDAP at " ++ request.base ++ " with filter: " ++
    request.filter ++ " and attributes: " ++ (Value.list (request.attributes.map .text)).quoted⟩

def finished (entries : List Entry) : Log.Record :=
  ⟨Log.directory, .debug, "LDAP search returned " ++ toString entries.length ++ " entries"⟩

/-- The search proper, on an open connection. -/
def onAccess (access : Access) (request : SearchRequest) : SearchReport :=
  match access request with
  | .error e => ⟨.error (.failure e), [.search request], [started request]⟩
  | .ok found =>
    let entries := found.map Entry.ofFound
    ⟨.ok entries, [.search request], [started request, finished entries]⟩

/-- Calls before and after those of a report. -/
def enclosed (report : SearchReport) (before after : List Call) : SearchReport :=
  { report with calls := before ++ report.calls ++ after }

def onSource (source : Source) (request : SearchRequest) : SearchReport :=
  match source with
  | .given access => onAccess access request
  | .opened directory connection =>
    let opening := connection.server.calls ++ [.connection connection]
    match directory connection with
    | .error e => ⟨.error (.failure e), opening, []⟩
    | .ok access => (onAccess access request).enclosed opening [.unbind]

end SearchReport

def ConditionSet.search (query : ConditionSet) (source : Source) (scope : SearchScope) :
    SearchReport :=
  match query.filter with
  | .error e => ⟨.error (.invalidOperator e), [], []⟩
  | .ok filter =>
    let report := SearchReport.onSource source (SearchReport.request scope filter)
    { report with log := ConditionSet.compiled filter :: report.log }

end DirectoryQuery
