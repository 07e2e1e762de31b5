import DirectoryQuery.CommandLine.Usage
import DirectoryQuery.Text.Digit

/-! What each argument of a command line is taken for, before any switch is carried out. An argument
that starts with a hyphen is a switch if it names one in full, names one in full before an equals sign,
or abbreviates the long name of exactly one; the short name may have a text right behind it. Negative
numbers, and texts with a space, are plain arguments in spite of the hyphen. -/
namespace DirectoryQuery.CommandLine

inductive Argument
  | plain (text : String)
  /-- A switch, with the text attached to it by an equals sign or by following its short name. Which
  of the two it was is not kept. -/
  | switch (switch : Switch) (short : Bool) (attached : Option String)
  | unknown (text : String)
  deriving DecidableEq, Repr

namespace Argument

/-- The text before the first equals sign, and the text after it if there is one. -/
def attachment (cs : List Char) : List Char × Option String :=
  (cs.takeWhile (· != '='),
    match cs.dropWhile (· != '=') with
    | [] => none
    | _ :: attached => some (String.ofList attached))

/-- Digits of any script, or a decimal point with digits after it, behind a hyphen. One line break at
the very end does no harm. -/
def isNegativeNumber : List Char → Bool
  | '-' :: cs =>
    let body := if cs.getLast? = some '\n' then cs.dropLast else cs
    match body.dropWhile Text.isDigit with
    | [] => !body.isEmpty
    | '.' :: places => !places.isEmpty && places.all Text.isDigit
    | _ => false
  | _ => false

/-- An argument that starts with a hyphen and names no switch. -/
def unnamed (text : String) : Argument :=
  if isNegativeNumber text.toList || text.toList.contains ' ' then plain text else unknown text

/-- An argument with two leading hyphens that is no full name. -/
def abbreviated (text : String) : Except UsageError Argument :=
  let (start, attached) := attachment text.toList
  match Switch.completions start with
  | [] => .ok (unnamed text)
  | [(_, found)] => .ok (switch found false attached)
  | several => .error (.ambiguous text (several.map (·.1)))

def named? (name : List Char) : Option Switch := Switch.names.lookup (String.ofList name)

def isShort (name : List Char) : Bool := name = ['-', 'h']

def classify (text : String) : Except UsageError Argument :=
  let (start, attached) := attachment text.toList
  match text.toList with
  | '-' :: rest =>
    match named? text.toList with
    | some found => .ok (switch found (isShort text.toList) none)
    | none =>
      match attached, named? start with
      | some _, some found => .ok (switch found (isShort start) attached)
      | _, _ =>
        match rest with
        | [] => .ok (plain text)
        | '-' :: _ => abbreviated text
        | 'h' :: more => .ok (switch .help true (some (String.ofList more)))
        | _ => .ok (unnamed text)
  | _ => .ok (plain text)

/-- Every argument in turn, or the first that is ambiguous. -/
def classifyAll : List String → Except UsageError (List Argument)
  | [] => .ok []
  | text :: rest => do
    let first ← classify text
    let others ← classifyAll rest
    return first :: others

end Argument

end DirectoryQuery.CommandLine
