import DirectoryQuery.CommandLine.Request
import DirectoryQuery.ConditionSet
import DirectoryQuery.Text.Blank

/-! The query that a request describes. A group of arguments is a condition if it has two or three
parts; a group of one argument is first cut into words, and then the value keeps its inner blanks.
The required groups are looked at first, and the first group that fails decides. -/
namespace DirectoryQuery.CommandLine

def parts : List String → List String
  | [quoted] => (Text.words 2 quoted.toList).map String.ofList
  | group => group

def conditionOf (switch : Switch) (group : List String) : Except UsageError Condition :=
  match parts group with
  | [field, operator] => .ok ⟨.text field, .text operator, .null⟩
  | [field, operator, value] => .ok ⟨.text field, .text operator, .text value⟩
  | other => .error (.malformed switch other)

/-- Why a request describes no query. -/
inductive QueryError
  | usage (e : UsageError)
  | invalidOperator (e : InvalidOperator)

/-- Adds the condition of each group in turn. -/
def addGroups (switch : Switch)
    (add : ConditionSet → Condition → Except InvalidOperator ConditionSet) :
    ConditionSet → List (List String) → Except QueryError ConditionSet
  | query, [] => .ok query
  | query, group :: rest =>
    match conditionOf switch group with
    | .error e => .error (.usage e)
    | .ok condition =>
      match add query condition with
      | .error e => .error (.invalidOperator e)
      | .ok next => addGroups switch add next rest

/-- A configured filter is the first of the verbatim fragments. -/
def Request.query (request : Request) (configured : Option String) :
    Except QueryError ConditionSet :=
  let start : ConditionSet :=
    ⟨[], [], (configured.map Value.text).toList ++ request.verbatim, request.nested⟩
  match addGroups .required ConditionSet.require start request.required with
  | .error e => .error e
  | .ok query => addGroups .alternative ConditionSet.allow query request.alternatives

end DirectoryQuery.CommandLine
