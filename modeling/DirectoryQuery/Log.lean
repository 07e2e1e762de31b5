import DirectoryQuery.Text.Blank

/-! Log records, and where they are written. Loggers form a tree by their names. A record counts if it
reaches the level of its logger, or of the nearest one above that has a level; it then goes to the
handlers of its logger and of those above, up to the first that does not pass records on. Handlers
write to the error stream, each what reaches its own level. -/
namespace DirectoryQuery.Log

/-- How much a record matters, or has to matter. Every number is a level, and some have names. -/
structure Level where
  rank : Nat
  deriving DecidableEq, Repr

namespace Level

/-- Everything matters that much. -/
def all : Level := ⟨0⟩
def debug : Level := ⟨10⟩
def info : Level := ⟨20⟩
def warning : Level := ⟨30⟩
def error : Level := ⟨40⟩
def critical : Level := ⟨50⟩

def name (level : Level) : String :=
  if level = debug then "DEBUG"
  else if level = info then "INFO"
  else if level = warning then "WARNING"
  else if level = error then "ERROR"
  else if level = critical then "CRITICAL"
  else if level = all then "NOTSET"
  else "Level " ++ toString level.rank

def reaches (level threshold : Level) : Bool := threshold.rank ≤ level.rank

end Level

/-- The parts of a dotted name, outermost first. The root of the tree has no part. -/
abbrev Name := List String

def Name.ofText (s : String) : Name :=
  if s = "" || s = "root" then [] else (Text.pieces '.' s.toList).map String.ofList

def Name.text (name : Name) : String := String.intercalate "." name

/-- A name and all those above it, innermost first. -/
def Name.ancestry : Name → List Name
  | [] => [[]]
  | part :: rest => (Name.ancestry rest).map (part :: ·) ++ [[]]

structure Record where
  logger : Name
  level : Level
  message : String
  deriving DecidableEq, Repr

structure Handler where
  level : Level
  labelled : Bool
  deriving DecidableEq, Repr

/-- The line that a handler writes for a record, if it writes one. -/
def Handler.line (handler : Handler) (record : Record) : String :=
  if record.level.reaches handler.level then
    (if handler.labelled then "[" ++ record.level.name ++ "] " else "") ++ record.message ++ "\n"
  else ""

structure Logger where
  level : Option Level
  passesOn : Bool
  handlers : List Handler
  deriving DecidableEq, Repr

/-- A logger that nobody has configured. -/
def Logger.bare : Logger := ⟨none, true, []⟩

abbrev Loggers := Name → Logger

/-- Before any set-up, only the root has a level. -/
def Loggers.initial : Loggers := fun name =>
  if name = [] then { Logger.bare with level := some .warning } else .bare

/-- Takes the records that reach no handler at all. -/
def lastResort : Handler := ⟨.warning, false⟩

namespace Loggers

def threshold (loggers : Loggers) (name : Name) : Level :=
  ((Name.ancestry name).findSome? fun above => (loggers above).level).getD .all

def reached (loggers : Loggers) : List Name → List Handler
  | [] => []
  | name :: above =>
    (loggers name).handlers ++ if (loggers name).passesOn then loggers.reached above else []

def handlersOf (loggers : Loggers) (name : Name) : List Handler :=
  match loggers.reached (Name.ancestry name) with
  | [] => [lastResort]
  | handlers => handlers

/-- What a record adds to the error stream. One that does not matter at all adds nothing anywhere. -/
def written (loggers : Loggers) (record : Record) : String :=
  if record.level ≠ .all ∧ record.level.reaches (loggers.threshold record.logger) then
    String.join ((loggers.handlersOf record.logger).map fun handler => handler.line record)
  else ""

def transcript (loggers : Loggers) (records : List Record) : String :=
  String.join (records.map loggers.written)

end Loggers

def application : Name := ["ldap_filter_grammar"]
def compiler : Name := application ++ ["compiler"]
def directory : Name := application ++ ["ldap"]

def chosenLevel (verbose : Bool) : Level := if verbose then .debug else .info

namespace Logger

def removeHandler (logger : Logger) (handler : Handler) : Logger :=
  { logger with handlers := logger.handlers.erase handler }

/-- A handler that is there already is not added again. -/
def addHandler (logger : Logger) (handler : Handler) : Logger :=
  if handler ∈ logger.handlers then logger
  else { logger with handlers := logger.handlers ++ [handler] }

/-- Sets the level of a logger and has it pass nothing on. Then its handlers are removed, one after
another, and one of the same level is added. -/
def setUp (logger : Logger) (verbose : Bool) : Logger :=
  let logger := { logger with level := some (chosenLevel verbose), passesOn := false }
  let logger := logger.handlers.foldl removeHandler logger
  logger.addHandler ⟨chosenLevel verbose, true⟩

end Logger

def Loggers.setUp (loggers : Loggers) (verbose : Bool) : Loggers := fun name =>
  if name = application then (loggers name).setUp verbose else loggers name

end DirectoryQuery.Log
