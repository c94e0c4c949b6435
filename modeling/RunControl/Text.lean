/-!
# Blank characters, trimming and searching

Text is handled as a list of characters. `isBlank` is Unicode's property White_Space;
`trim` removes it from both ends and `trimEnd` removes any class of characters from the end.
-/

namespace RunControl.Text

def isBlank (c : Char) : Bool :=
  let n := c.toNat
  (0x09 ≤ n && n ≤ 0x0D) || n == 0x20 || n == 0x85 || n == 0xA0 || n == 0x1680 ||
    (0x2000 ≤ n && n ≤ 0x200A) || n == 0x2028 || n == 0x2029 || n == 0x202F ||
    n == 0x205F || n == 0x3000

/-- A carriage return or a line feed. -/
def isLineEnd (c : Char) : Bool := c == '\r' || c == '\n'

/-- Remove the longest run of characters of the class `p` from the end. -/
def trimEnd (p : Char → Bool) (s : List Char) : List Char := (s.reverse.dropWhile p).reverse

/-- Remove blank characters from both ends. -/
def trim (s : List Char) : List Char := trimEnd isBlank (s.dropWhile isBlank)

/-- Lower-case the ASCII letters and keep all else. -/
def lowerAscii (s : List Char) : List Char := s.map Char.toLower

/-- `part` occurs in the text as a contiguous piece. -/
def contains (part : List Char) : List Char → Bool
  | [] => part.isEmpty
  | c :: rest => part.isPrefixOf (c :: rest) || contains part rest

/-- Fill up with blanks on the right to `width` characters. -/
def padEnd (width : Nat) (s : String) : String :=
  s ++ String.ofList (List.replicate (width - s.length) ' ')

/-- Fill up with blanks on the left to `width` characters. -/
def padStart (width : Nat) (s : String) : String :=
  String.ofList (List.replicate (width - s.length) ' ') ++ s

/-- The character is in one of the ranges of code points, ends included. -/
def isWithin (ranges : List (Nat × Nat)) (c : Char) : Bool :=
  ranges.any fun r => r.1 ≤ c.toNat && c.toNat ≤ r.2

end RunControl.Text
