/-! The switches of the command line and their names. -/
namespace DirectoryQuery.CommandLine

inductive Switch
  | help | required | alternative | verbatim | nested | operators | search
  deriving DecidableEq, Repr

namespace Switch

/-- Every name with its switch, in the order in which candidates for an abbreviation are told. -/
def names : List (String × Switch) := [
  ("-h", help), ("--help", help), ("--where", required), ("--or-where", alternative),
  ("--raw", verbatim), ("--nested", nested), ("--list-operators", operators), ("--search", search)]

/-- How messages refer to a switch. -/
def label (switch : Switch) : String :=
  String.intercalate "/" ((names.filter fun entry => entry.2 = switch).map (·.1))

/-- The names that a text abbreviates. -/
def completions (start : List Char) : List (String × Switch) :=
  names.filter fun entry => start.isPrefixOf entry.1.toList

end Switch

end DirectoryQuery.CommandLine
