/-! Letters without regard to case, as far as words over the letters A to Z need it. -/
namespace DirectoryQuery.Text

def lower (cs : List Char) : List Char := cs.map Char.toLower

/-- The capital of a character, where that is one letter from A to Z. Outside ASCII this happens only
for the dotless ı and the long ſ; every other character stays as it is. -/
def capital (c : Char) : Char :=
  if c = 'ı' then 'I' else if c = 'ſ' then 'S' else c.toUpper

def capitals (s : String) : String := String.ofList (s.toList.map capital)

/-- Takes every occurrence of a text away, going from left to right and never looking again at what
an occurrence leaves behind. The first argument counts the characters of the current occurrence that
are still to be passed over. -/
def eraseFrom (unwanted : List Char) : Nat → List Char → List Char
  | _, [] => []
  | passing + 1, _ :: cs => eraseFrom unwanted passing cs
  | 0, c :: cs =>
    if unwanted.isPrefixOf (c :: cs) then eraseFrom unwanted (unwanted.length - 1) cs
    else c :: eraseFrom unwanted 0 cs

def erase (unwanted : List Char) (cs : List Char) : List Char := eraseFrom unwanted 0 cs

end DirectoryQuery.Text
