import DirectoryQuery.CommandLine.Argument
import DirectoryQuery.Value

/-! The request that a command line makes. The arguments are cut into the plain ones at the front and
one portion for each switch, which holds the plain arguments up to the next switch. Portions are
carried out from left to right; what a switch does not take is left over, and nothing may be left over
in the end. The argument `--` ends all this: it and everything after it is left over.

There are two conventions for a text attached to a switch, and the older one is modeled. By it an
attached `--` counts as no argument at all, so it leaves an empty group, or an empty list in place of a
fragment. A text attached to the short name for help asks for help if it is another `h` or several,
with or without an equals sign in front; otherwise what is left behind them is refused. By the later
convention an attached `--` is a text like any other; behind the short name for help every text after
an equals sign is refused, and without one no letter keeps help from being given. That convention is
not modeled: the two part on `--where=--`, `--raw=--`, `-h=h` and `-hx`. -/
namespace DirectoryQuery.CommandLine

structure Request where
  required : List (List String)
  alternatives : List (List String)
  verbatim : List Value
  nested : Bool
  operators : Bool
  search : Bool

namespace Request

def empty : Request := ⟨[], [], [], false, false, false⟩

end Request

/-- A switch or an unknown argument, and the plain arguments after it. -/
structure Portion where
  head : Argument
  followers : List String

/-- The plain arguments at the front, and the portions after them. -/
def portions : List Argument → List String × List Portion
  | [] => ([], [])
  | argument :: rest =>
    let (front, others) := portions rest
    match argument with
    | .plain text => (text :: front, others)
    | head => ([], ⟨head, front⟩ :: others)

@[simp] theorem portions_plain (text : String) (rest : List Argument) :
    portions (.plain text :: rest) = (text :: (portions rest).1, (portions rest).2) := rfl

/-- A request in the making, with the arguments left over so far. -/
structure Draft where
  request : Request
  leftover : List String

namespace Draft

/-- An attached `--` counts as no argument at all. -/
def attachedGroup (attached : String) : List String := if attached = "--" then [] else [attached]

def attachedFragment (attached : String) : Value :=
  if attached = "--" then .list [] else .text attached

def leave (draft : Draft) (texts : List String) : Draft :=
  { draft with leftover := draft.leftover ++ texts }

def mapRequest (draft : Draft) (f : Request → Request) : Draft :=
  { draft with request := f draft.request }

/-- A switch that takes as many plain arguments as follow it, and at least one. -/
def takeGroup (draft : Draft) (switch : Switch) (add : List String → Request → Request)
    (attached : Option String) (followers : List String) : Except Refusal Draft :=
  match attached, followers with
  | some text, _ => .ok ((draft.mapRequest (add (attachedGroup text))).leave followers)
  | none, [] => .error (.usage (.missing switch))
  | none, _ => .ok (draft.mapRequest (add followers))

def takeFragment (draft : Draft) (attached : Option String) (followers : List String) :
    Except Refusal Draft :=
  let add (fragment : Value) (request : Request) : Request :=
    { request with verbatim := request.verbatim ++ [fragment] }
  match attached, followers with
  | some text, _ => .ok ((draft.mapRequest (add (attachedFragment text))).leave followers)
  | none, [] => .error (.usage (.missing .verbatim))
  | none, text :: rest => .ok ((draft.mapRequest (add (.text text))).leave rest)

def raise (draft : Draft) (switch : Switch) (set : Request → Request)
    (attached : Option String) (followers : List String) : Except Refusal Draft :=
  match attached with
  | some text => .error (.usage (.unwanted switch text))
  | none => .ok ((draft.mapRequest set).leave followers)

/-- The short name for help may be repeated behind one hyphen. Whatever else is attached to it is
refused, an empty text included. -/
def helpRefusal (short : Bool) : Option String → Refusal
  | none => .help
  | some text =>
    if short && text != "" then
      match text.toList.dropWhile (· == 'h') with
      | [] => .help
      | rest => .usage (.unwanted .help (String.ofList rest))
    else .usage (.unwanted .help text)

def carryOut (draft : Draft) (portion : Portion) : Except Refusal Draft :=
  match portion.head with
  | .plain text | .unknown text => .ok (draft.leave (text :: portion.followers))
  | .switch switch short attached =>
    match switch with
    | .help => .error (helpRefusal short attached)
    | .required =>
      draft.takeGroup switch
        (fun group request => { request with required := request.required ++ [group] })
        attached portion.followers
    | .alternative =>
      draft.takeGroup switch
        (fun group request => { request with alternatives := request.alternatives ++ [group] })
        attached portion.followers
    | .verbatim => draft.takeFragment attached portion.followers
    | .nested =>
      draft.raise switch (fun request => { request with nested := true }) attached
        portion.followers
    | .operators =>
      draft.raise switch (fun request => { request with operators := true }) attached
        portion.followers
    | .search =>
      draft.raise switch (fun request => { request with search := true }) attached
        portion.followers

def carryOutAll : Draft → List Portion → Except Refusal Draft
  | draft, [] => .ok draft
  | draft, portion :: rest =>
    match draft.carryOut portion with
    | .ok next => carryOutAll next rest
    | .error refusal => .error refusal

def finish (draft : Draft) (unread : List String) : Except Refusal Request :=
  match draft.leftover ++ unread with
  | [] => .ok draft.request
  | leftover => .error (.usage (.unrecognized leftover))

end Draft

def Request.ofArguments (arguments : List String) : Except Refusal Request :=
  match Argument.classifyAll (arguments.takeWhile (· != "--")) with
  | .error e => .error (.usage e)
  | .ok classified =>
    let (front, portions) := portions classified
    match Draft.carryOutAll ⟨.empty, front⟩ portions with
    | .error refusal => .error refusal
    | .ok draft => draft.finish (arguments.dropWhile (· != "--"))

end DirectoryQuery.CommandLine
