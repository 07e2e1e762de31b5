import DirectoryQuery.Number.Shortest
import DirectoryQuery.Text.Quoted

/-! Values. Whoever builds a condition may put any value into it, and a directory may hold any value,
so fields, operators, fragments and attribute values are all of this one type. Texts are what they
normally are; every other value has a text as well. -/
namespace DirectoryQuery

inductive Value
  | null
  | bool (b : Bool)
  | int (n : Int)
  | real (x : Binary64)
  | text (s : String)
  | octets (bytes : List UInt8)
  | list (items : List Value)
  | tuple (items : List Value)
  | record (fields : List (String × Value))
  deriving Repr

namespace Value

mutual

/-- A value as it is written inside another one: a text is quoted there. -/
def quoted : Value → String
  | null => "None"
  | bool b => if b then "True" else "False"
  | int n => toString n
  | real x => x.text Layout.common
  | text s => Text.quoted s
  | octets bytes => Text.quotedOctets bytes
  | list items => "[" ++ String.intercalate ", " (quotedItems items) ++ "]"
  | tuple items =>
    "(" ++ String.intercalate ", " (quotedItems items) ++ (if items.length = 1 then ",)" else ")")
  | record fields => "\x7b" ++ String.intercalate ", " (quotedFields fields) ++ "\x7d"

def quotedItems : List Value → List String
  | [] => []
  | item :: rest => quoted item :: quotedItems rest

def quotedFields : List (String × Value) → List String
  | [] => []
  | (name, value) :: rest => (Text.quoted name ++ ": " ++ quoted value) :: quotedFields rest

end

/-- The text of a value. A text stands for itself. -/
def shown : Value → String
  | text s => s
  | value => value.quoted

/-- Nothing, falsehood, zero, and whatever holds no element or character. -/
def isVoid : Value → Bool
  | null => true
  | bool b => !b
  | int n => n == 0
  | real x => x.isZero
  | text s => s == ""
  | octets bytes => bytes.isEmpty
  | list items | tuple items => items.isEmpty
  | record fields => fields.isEmpty

/-- A truth value counts as one or zero among the integers. -/
def int? : Value → Option Int
  | bool b => some (if b then 1 else 0)
  | int n => some n
  | _ => none

mutual

/-- Equality of what two values stand for: numbers by their size, whatever their kind, lists and
tuples element by element within their kind, and records field by field in any order. -/
def agrees : Value → Value → Bool
  | null, null => true
  | text s, text t => s == t
  | octets s, octets t => s == t
  | list xs, list ys => itemsAgree xs ys
  | tuple xs, tuple ys => itemsAgree xs ys
  | record xs, record ys => xs.length == ys.length && fieldsAgree xs ys
  | real x, real y => x.agrees y
  | real x, value => (value.int?.map x.agreesInt).getD false
  | value, real y => (value.int?.map y.agreesInt).getD false
  | value, other => value.int?.isSome && value.int? == other.int?

def itemsAgree : List Value → List Value → Bool
  | [], [] => true
  | x :: xs, y :: ys => agrees x y && itemsAgree xs ys
  | _, _ => false

def fieldsAgree : List (String × Value) → List (String × Value) → Bool
  | [], _ => true
  | (name, x) :: xs, ys =>
    (match ys.lookup name with
      | some y => agrees x y
      | none => false) && fieldsAgree xs ys

end

@[simp] theorem shown_text (s : String) : (text s).shown = s := rfl

end Value

end DirectoryQuery
