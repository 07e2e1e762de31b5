import DirectoryQuery.Number.Binary64
import DirectoryQuery.Text.Digit

/-! Numerals: an optional sign, then digits of any script with an optional fraction and exponent, or
one of the words for infinity and for what is not a number. An underscore may stand between two
digits. Everything else is no numeral. -/
namespace DirectoryQuery.Numeral

/-- Takes out the underscores that stand between two digits; another underscore makes the text no
numeral. The first argument says whether the character before was a digit. -/
def ungroup : Bool → List Char → Option (List Char)
  | _, [] => some []
  | afterDigit, c :: cs =>
    if c = '_' then
      if afterDigit && (cs.head?.map Char.isDigit).getD false then ungroup false cs else none
    else (ungroup c.isDigit cs).map (c :: ·)

def sign : List Char → Bool × List Char
  | '-' :: cs => (true, cs)
  | '+' :: cs => (false, cs)
  | cs => (false, cs)

def digitsValue (cs : List Char) : Nat := cs.foldl (fun n c => 10 * n + (c.toNat - '0'.toNat)) 0

/-- The power of ten at the end of a numeral. -/
def exponent? : List Char → Option Int
  | [] => some 0
  | c :: cs =>
    let (negative, digits) := sign cs
    if (c = 'e' || c = 'E') && !digits.isEmpty && digits.all Char.isDigit then
      some (if negative then -(digitsValue digits : Int) else digitsValue digits)
    else none

/-- The digits after the point, and what follows them. -/
def fraction : List Char → List Char × List Char
  | '.' :: cs => (cs.takeWhile Char.isDigit, cs.dropWhile Char.isDigit)
  | cs => ([], cs)

def unsigned? (negative : Bool) (cs : List Char) : Option Binary64 :=
  let word := cs.map Char.toLower
  if word = "inf".toList || word = "infinity".toList then some (.infinite negative)
  else if word = "nan".toList then some .nan
  else
    let whole := cs.takeWhile Char.isDigit
    let (places, rest) := fraction (cs.dropWhile Char.isDigit)
    if whole.isEmpty && places.isEmpty then none
    else
      (exponent? rest).map fun exponent =>
        .ofDecimal negative (digitsValue (whole ++ places)) (exponent - places.length)

def read? (s : String) : Option Binary64 := do
  let cs ← ungroup false (s.toList.map Text.westernDigit)
  let (negative, rest) := sign cs
  unsigned? negative rest

end DirectoryQuery.Numeral
