import DirectoryQuery.CommandLine.Switch
import DirectoryQuery.Text.Quoted

/-! Usage: the overview of the command line, the help, and what is said about arguments that do not
fit. -/
namespace DirectoryQuery.CommandLine

inductive UsageError
  /-- An abbreviation of more than one name. -/
  | ambiguous (argument : String) (candidates : List String)
  /-- A switch that takes arguments and got none. -/
  | missing (switch : Switch)
  /-- A text attached to a switch that takes no argument. -/
  | unwanted (switch : Switch) (attached : String)
  | unrecognized (arguments : List String)
  /-- A group of arguments that is no condition. -/
  | malformed (switch : Switch) (parts : List String)
  deriving DecidableEq, Repr

namespace UsageError

def expectation : Switch → String
  | .verbatim => "expected one argument"
  | _ => "expected at least one argument"

def message : UsageError → String
  | ambiguous argument candidates =>
    "ambiguous option: " ++ argument ++ " could match " ++ String.intercalate ", " candidates
  | missing switch => "argument " ++ switch.label ++ ": " ++ expectation switch
  | unwanted switch attached =>
    "argument " ++ switch.label ++ ": ignored explicit argument " ++ Text.quoted attached
  | unrecognized arguments => "unrecognized arguments: " ++ String.intercalate " " arguments
  | malformed switch parts =>
    switch.label ++ " expects FIELD OP [VALUE], got " ++
      Text.quoted (String.intercalate " " parts)

end UsageError

def programName : String := "ldap-filter"

def overview : String :=
  "usage: ldap-filter [-h] [--where ARG [ARG ...]] [--or-where ARG [ARG ...]]\n" ++
  "                   [--raw FILTER] [--nested] [--list-operators] [--search]\n"

def helpText : String :=
  overview ++
  "\nCompile search conditions into an LDAP filter string.\n" ++
  "\noptions:\n" ++
  "  -h, --help            show this help message and exit\n" ++
  "  --where ARG [ARG ...]\n" ++
  "                        AND condition: FIELD OP [VALUE], or one quoted 'FIELD\n" ++
  "                        OP VALUE'\n" ++
  "  --or-where ARG [ARG ...]\n" ++
  "                        OR condition: FIELD OP [VALUE], or one quoted 'FIELD\n" ++
  "                        OP VALUE'\n" ++
  "  --raw FILTER          pre-formed filter inserted verbatim\n" ++
  "  --nested              suppress the outer envelope\n" ++
  "  --list-operators      print supported operators\n" ++
  "  --search              run the filter against LDAP_HOST\n"

def UsageError.report (e : UsageError) : String :=
  overview ++ programName ++ ": error: " ++ e.message ++ "\n"

/-- Why a command line is not carried out. -/
inductive Refusal
  | help
  | usage (e : UsageError)
  deriving DecidableEq, Repr

end DirectoryQuery.CommandLine
