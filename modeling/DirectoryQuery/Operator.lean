import DirectoryQuery.Value

/-! Search operators. Each is a test of one attribute, some of them also in negated form, and each is
written by a fixed token; only `unequal` has two. The list of tokens is closed and ordered. -/
namespace DirectoryQuery

inductive Test
  | present | equal | atLeast | atMost | approximate | startsWith | endsWith | contains
  deriving DecidableEq, Repr

namespace Test

/-- The item of a filter that carries out a test. Texts are put in as they are; escaping what has a
meaning of its own there is left to whoever writes the condition. -/
def item (test : Test) (field value : String) : String :=
  match test with
  | present => field ++ "=*"
  | equal => field ++ "=" ++ value
  | atLeast => field ++ ">=" ++ value
  | atMost => field ++ "<=" ++ value
  | approximate => field ++ "~=" ++ value
  | startsWith => field ++ "=" ++ value ++ "*"
  | endsWith => field ++ "=*" ++ value
  | contains => field ++ "=*" ++ value ++ "*"

end Test

inductive Operator
  | present | absent | equal | unequal | atLeast | atMost | approximate
  | startsWith | notStartsWith | endsWith | notEndsWith | contains | notContains
  deriving DecidableEq, Repr

namespace Operator

def test : Operator → Test
  | present | absent => .present
  | equal | unequal => .equal
  | atLeast => .atLeast
  | atMost => .atMost
  | approximate => .approximate
  | startsWith | notStartsWith => .startsWith
  | endsWith | notEndsWith => .endsWith
  | contains | notContains => .contains

def negated : Operator → Bool
  | absent | unequal | notStartsWith | notEndsWith | notContains => true
  | _ => false

def name : Operator → String
  | present => "has"
  | absent => "not_has"
  | equal => "equals"
  | unequal => "does_not_equal"
  | atLeast => "greater_than_or_equals"
  | atMost => "less_than_or_equals"
  | approximate => "approximately_equals"
  | startsWith => "starts_with"
  | notStartsWith => "not_starts_with"
  | endsWith => "ends_with"
  | notEndsWith => "not_ends_with"
  | contains => "contains"
  | notContains => "not_contains"

def registry : List (String × Operator) := [
  ("*", present), ("!*", absent), ("=", equal), ("!", unequal), ("!=", unequal), (">=", atLeast),
  ("<=", atMost), ("~=", approximate), ("starts_with", startsWith),
  ("not_starts_with", notStartsWith), ("ends_with", endsWith), ("not_ends_with", notEndsWith),
  ("contains", contains), ("not_contains", notContains)]

def tokens : List String := registry.map (·.1)

/-- Only a text can be a token. -/
def ofToken? : Value → Option Operator
  | .text token => registry.lookup token
  | _ => none

/-- The fragment of a condition: its item in parentheses, negated where the operator says so. -/
def fragment (operator : Operator) (field value : String) : String :=
  let positive := "(" ++ operator.test.item field value ++ ")"
  if operator.negated then "(!" ++ positive ++ ")" else positive

end Operator

/-- What stood where an operator's token was expected. -/
structure InvalidOperator where
  token : Value
  deriving Repr

def InvalidOperator.message (e : InvalidOperator) : String :=
  "Invalid LDAP filter operator [" ++ e.token.shown ++ "]"

def Operator.resolve (token : Value) : Except InvalidOperator Operator :=
  match ofToken? token with
  | some operator => .ok operator
  | none => .error ⟨token⟩

end DirectoryQuery
