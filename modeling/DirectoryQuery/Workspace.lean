import DirectoryQuery.ConditionSet.Filter

/-! A workspace holds condition sets under names while queries are being built. Each step acts on one
of them. A step that fails leaves the workspace as it was. -/
namespace DirectoryQuery

abbrev Workspace := String → Option ConditionSet

namespace Workspace

def empty : Workspace := fun _ => none

def put (workspace : Workspace) (name : String) (query : ConditionSet) : Workspace := fun other =>
  if other = name then some query else workspace other

inductive Part
  | required | alternatives | verbatim
  deriving DecidableEq, Repr

inductive Action
  | create (query : ConditionSet)
  | require (condition : Condition)
  | allow (condition : Condition)
  | addVerbatim (fragments : List Value)
  /-- Adds the filter of another set, in an envelope if one is asked for. -/
  | embed (source : String) (envelope : Option Envelope)
  /-- Adds a condition without checking its operator. -/
  | append (toAlternatives : Bool) (condition : Condition)
  | drop (part : Part)
  | setNested (nested : Bool)
  /-- Tries to change a part of the first required condition. -/
  | overwrite (name : String)
  | size
  | filter
  | compare (other : String)
  | describe

inductive Reply
  | set (query : ConditionSet)
  | number (n : Nat)
  | text (s : String)
  | truth (b : Bool)

inductive Error
  | unknownSet (name : String)
  | invalidOperator (e : InvalidOperator)
  /-- Conditions do not change once they are made. -/
  | frozen (name : String)
  /-- A name that is none of the parts of a condition. -/
  | noPart (name : String)
  | noCondition
  | nothingToDrop

def Error.message : Error → String
  | unknownSet name => Text.quoted name
  | invalidOperator e => e.message
  | frozen name => "cannot assign to field " ++ Text.quoted name
  | noPart _ => "super(type, obj): obj must be an instance or subtype of type"
  | noCondition => "list index out of range"
  | nothingToDrop => "pop from empty list"

def find (workspace : Workspace) (name : String) : Except Error ConditionSet :=
  match workspace name with
  | some query => .ok query
  | none => .error (.unknownSet name)

def filterOf (query : ConditionSet) : Except Error String := query.filter.mapError .invalidOperator

/-- A list without its last element. -/
def withoutLast {α : Type} : List α → Except Error (List α)
  | [] => .error .nothingToDrop
  | items => .ok items.dropLast

def dropFrom (query : ConditionSet) : Part → Except Error ConditionSet
  | .required => (withoutLast query.required).map fun rest => { query with required := rest }
  | .alternatives =>
    (withoutLast query.alternatives).map fun rest => { query with alternatives := rest }
  | .verbatim => (withoutLast query.verbatim).map fun rest => { query with verbatim := rest }

/-- The set that an action makes of another, for the actions that change one. -/
def change (workspace : Workspace) (query : ConditionSet) : Action → Except Error ConditionSet
  | .create fresh => .ok fresh
  | .require condition => (query.require condition).mapError .invalidOperator
  | .allow condition => (query.allow condition).mapError .invalidOperator
  | .addVerbatim fragments => .ok (query.addVerbatim fragments)
  | .embed source envelope => do
    let filter ← filterOf (← workspace.find source)
    return query.addVerbatim [.text (match envelope with
      | some envelope => envelope.around filter
      | none => filter)]
  | .append true condition => .ok { query with alternatives := query.alternatives ++ [condition] }
  | .append false condition => .ok { query with required := query.required ++ [condition] }
  | .drop part => dropFrom query part
  | .setNested nested => .ok { query with nested }
  | .overwrite name =>
    match query.required with
    | [] => .error .noCondition
    | _ => .error (if Condition.partNames.contains name then .frozen name else .noPart name)
  | .size | .filter | .compare _ | .describe => .ok query

/-- A set agrees with itself, whatever it holds. -/
def compare (workspace : Workspace) (name other : String) : Except Error Bool := do
  let left ← workspace.find name
  let right ← workspace.find other
  return name == other || left.agrees right

def reply (workspace : Workspace) (name : String) (query : ConditionSet) :
    Action → Except Error Reply
  | .size => .ok (.number query.size)
  | .filter => (filterOf query).map .text
  | .compare other => (workspace.compare name other).map .truth
  | .describe => .ok (.text query.described)
  | _ => .ok (.set query)

/-- The set that an action starts from. One that is to be created need not be there. -/
def subject (workspace : Workspace) (name : String) : Action → Except Error ConditionSet
  | .create fresh => .ok fresh
  | _ => workspace.find name

def step (workspace : Workspace) (name : String) (action : Action) :
    Except Error (Reply × Workspace) := do
  let query ← workspace.subject name action
  let changed ← workspace.change query action
  let reply ← workspace.reply name changed action
  return (reply, workspace.put name changed)

/-- The records of the filters that a step has compiled. -/
def stepLog (workspace : Workspace) (name : String) : Action → List Log.Record
  | .embed source _ => ((workspace source).map ConditionSet.filterLog).getD []
  | .filter => ((workspace name).map ConditionSet.filterLog).getD []
  | _ => []

/-- Carries out steps in order, and goes on after those that fail. -/
def run (workspace : Workspace) :
    List (String × Action) → List (Except Error Reply) × List Log.Record
  | [] => ([], [])
  | (name, action) :: rest =>
    let (reply, next) : Except Error Reply × Workspace :=
      match workspace.step name action with
      | .ok (reply, next) => (.ok reply, next)
      | .error e => (.error e, workspace)
    let (replies, log) := next.run rest
    (reply :: replies, workspace.stepLog name action ++ log)

end Workspace

end DirectoryQuery
