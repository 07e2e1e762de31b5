import DirectoryQuery.Directory

/-! Entries as they are handed out: names and values are texts, and each attribute has a list of them. -/
namespace DirectoryQuery

structure Entry where
  name : String
  attributes : List (String × List String)
  deriving DecidableEq, Repr

namespace Entry

/-- The values of an attribute. A list stands for its elements, one text each; nothing, the empty text
and the empty list stand for no value, and anything else is one. -/
def texts : Value → List String
  | .null | .text "" => []
  | .list items | .tuple items => items.map Value.shown
  | value => [value.shown]

/-- Gives an attribute its values. One that is there already keeps its place. -/
def assign (name : String) (values : List String) :
    List (String × List String) → List (String × List String)
  | [] => [(name, values)]
  | (other, old) :: rest =>
    if other = name then (other, values) :: rest else (other, old) :: assign name values rest

def ofList (name : String) (attributes : List (String × List String)) : Entry :=
  ⟨name, attributes.foldl (fun known (name, values) => assign name values known) []⟩

def ofFound (found : FoundEntry) : Entry :=
  ofList found.name.shown (found.attributes.map fun (name, value) => (name, texts value))

def first? (entry : Entry) (name : String) : Option String :=
  (entry.attributes.lookup name).bind List.head?

def described (entry : Entry) : String :=
  "LdapEntry(dn=" ++ Text.quoted entry.name ++ ", attributes=" ++
    toString entry.attributes.length ++ " items)"

end Entry

end DirectoryQuery
