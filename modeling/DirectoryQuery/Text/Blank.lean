/-! White space, and the readings of a text that depend on it: trimming, cutting at a separator, and
taking words off the front. A blank is any character that Unicode gives the property White_Space,
together with the four information separators U+001C to U+001F. -/
namespace DirectoryQuery.Text

def isBlank (c : Char) : Bool :=
  let n := c.toNat
  (0x09 ≤ n && n ≤ 0x0D) || (0x1C ≤ n && n ≤ 0x20) || n == 0x85 || n == 0xA0 || n == 0x1680 ||
    (0x2000 ≤ n && n ≤ 0x200A) || n == 0x2028 || n == 0x2029 || n == 0x202F || n == 0x205F ||
    n == 0x3000

def dropBlanks (cs : List Char) : List Char := cs.dropWhile isBlank

/-- The text between the first and the last character that is not blank. -/
def trim (cs : List Char) : List Char := (dropBlanks (dropBlanks cs).reverse).reverse

def trimmed (s : String) : String := String.ofList (trim s.toList)

/-- The pieces between the occurrences of a separator: one more than there are separators. -/
def pieces (separator : Char) : List Char → List (List Char)
  | [] => [[]]
  | c :: cs =>
    if c = separator then [] :: pieces separator cs
    else
      match pieces separator cs with
      | [] => [[c]]
      | piece :: rest => (c :: piece) :: rest

/-- At most `limit` words, and then whatever follows the blanks after them, kept as it stands with
its inner and trailing blanks. -/
def words : Nat → List Char → List (List Char)
  | 0, cs => if dropBlanks cs = [] then [] else [dropBlanks cs]
  | limit + 1, cs =>
    if dropBlanks cs = [] then []
    else
      (dropBlanks cs).takeWhile (fun c => !isBlank c) ::
        words limit ((dropBlanks cs).dropWhile (fun c => !isBlank c))

end DirectoryQuery.Text
