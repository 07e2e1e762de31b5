import DirectoryQuery.Text.Printable

/-! Quoted text. The mark is an apostrophe unless the text holds an apostrophe and no double quote.
The mark itself, the backslash and the three common controls are written with a backslash; any other
character that cannot be shown is written by its code point, in two, four or eight hexadecimal digits. -/
namespace DirectoryQuery.Text

def apostrophe : Char := Char.ofNat 0x27
def doubleQuote : Char := Char.ofNat 0x22
def backslash : Char := Char.ofNat 0x5C

/-- The last `width` hexadecimal digits of a number, in lower case. -/
def hexDigits : Nat → Nat → List Char
  | 0, _ => []
  | width + 1, n => hexDigits width (n / 16) ++ [Nat.digitChar (n % 16)]

def codePoint (n : Nat) : List Char :=
  if n < 0x100 then backslash :: 'x' :: hexDigits 2 n
  else if n < 0x10000 then backslash :: 'u' :: hexDigits 4 n
  else backslash :: 'U' :: hexDigits 8 n

/-- The mark that encloses a text. -/
def mark (cs : List Char) : Char :=
  if cs.contains apostrophe && !cs.contains doubleQuote then doubleQuote else apostrophe

/-- A character as it is written between two marks, given which ones can be shown as they are. -/
def escaped (shows : Char → Bool) (mark : Char) (c : Char) : List Char :=
  if c = mark || c = backslash then [backslash, c]
  else if c = '\n' then [backslash, 'n']
  else if c = '\r' then [backslash, 'r']
  else if c = '\t' then [backslash, 't']
  else if shows c then [c]
  else codePoint c.toNat

def enclose (shows : Char → Bool) (cs : List Char) : List Char :=
  mark cs :: cs.flatMap (escaped shows (mark cs)) ++ [mark cs]

def quoted (s : String) : String := String.ofList (enclose isPrintable s.toList)

/-- Octets are quoted as the characters of the same number, of which only those of ASCII are shown. -/
def quotedOctets (octets : List UInt8) : String :=
  String.ofList ('b' :: enclose (fun c => 0x20 ≤ c.toNat && c.toNat < 0x7F)
    (octets.map fun octet => Char.ofNat octet.toNat))

end DirectoryQuery.Text
