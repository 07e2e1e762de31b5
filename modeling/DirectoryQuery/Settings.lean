import DirectoryQuery.Number.Numeral
import DirectoryQuery.Text.Blank
import DirectoryQuery.Text.Letter
import DirectoryQuery.Value

/-! The settings of a search against a directory, read from the environment. Every variable has a
default, and only a time limit that is no number is refused. -/
namespace DirectoryQuery

/-- The value of each environment variable that is set. -/
abbrev Environment := String → Option String

structure Settings where
  host : String
  user : String
  password : String
  base : String
  filter : Option String
  attributes : List String
  timeLimit : Value
  ignoresCertificate : Bool
  authorityFile : Option String
  verbose : Bool

/-- A time limit that is no numeral, without the blanks around it. -/
structure InvalidTimeLimit where
  given : String
  deriving Repr

def InvalidTimeLimit.message (e : InvalidTimeLimit) : String :=
  "LDAP_TIMEOUT must be a number, got " ++ Text.quoted e.given

namespace Settings

/-- The variables that are read. -/
def variableNames : List String := [
  "LDAP_HOST", "LDAP_BIND_DN", "LDAP_BIND_PASSWORD", "LDAP_BASE_DN", "LDAP_FILTER",
  "LDAP_ATTRIBUTES", "LDAP_TIMEOUT", "IGNORE_LDAPS_CERT", "LDAP_CA_FILE", "DEBUG"]

def yesWords : List String := ["1", "TRUE", "YES", "ON", "true", "yes", "on"]

def defaultHost : String := "ldap://localhost:389"
def defaultAttributes : List String := ["cn", "mail"]
def defaultTimeLimit : Value := .int 5

/-- A filter without its surrounding blanks, put in parentheses unless it opens with one. Blanks
alone are no filter. -/
def standardFilter (given : String) : Option String :=
  match Text.trim given.toList with
  | [] => none
  | '(' :: rest => some (String.ofList ('(' :: rest))
  | filter => some ("(" ++ String.ofList filter ++ ")")

/-- The names in a text that separates them by commas. Blanks around a name do not belong to it, and
pieces without a name are passed over. -/
def nameList (given : String) : List String :=
  (((Text.pieces ',' (Text.trim given.toList)).map Text.trim).filter (!·.isEmpty)).map String.ofList

def timeLimitOf (given : String) : Except InvalidTimeLimit Value :=
  let limit := Text.trimmed given
  if limit = "" then .ok defaultTimeLimit
  else
    match Numeral.read? limit with
    | some x => .ok (.real x)
    | none => .error ⟨limit⟩

/-- Settings that hold nothing but a filter. -/
def withFilter (filter : Option String) : Settings :=
  ⟨defaultHost, "", "", "", filter.bind standardFilter, defaultAttributes, defaultTimeLimit, false,
    none, false⟩

/-- Debugging is switched on by any of the words for yes, in capitals or not. -/
def isVerbose (environment : Environment) : Bool :=
  yesWords.contains (Text.capitals ((environment "DEBUG").getD ""))

/-- Certificates are ignored only if one of the words for yes is given exactly. -/
def ignoresCertificateIn (environment : Environment) : Bool :=
  yesWords.contains ((environment "IGNORE_LDAPS_CERT").getD "")

def attributesIn (environment : Environment) : List String :=
  match nameList ((environment "LDAP_ATTRIBUTES").getD "") with
  | [] => defaultAttributes
  | names => names

def ofEnvironment (environment : Environment) : Except InvalidTimeLimit Settings :=
  (timeLimitOf ((environment "LDAP_TIMEOUT").getD "")).map fun timeLimit =>
    { host := (environment "LDAP_HOST").getD defaultHost
      user := (environment "LDAP_BIND_DN").getD ""
      password := (environment "LDAP_BIND_PASSWORD").getD ""
      base := (environment "LDAP_BASE_DN").getD ""
      filter := (environment "LDAP_FILTER").bind standardFilter
      attributes := attributesIn environment
      timeLimit
      ignoresCertificate := ignoresCertificateIn environment
      authorityFile := environment "LDAP_CA_FILE"
      verbose := isVerbose environment }

end Settings

end DirectoryQuery
