/-!
# Decimal numerals

`digits` writes a natural number and `natural?` reads one; leading zeros are allowed when
reading. `signed?` adds an optional sign and `unsigned?` an optional plus. `int64?` and
`uint32?` read numbers of a fixed width and refuse every number outside it.
-/

namespace RunControl.Numeral

def digitValue (c : Char) : Nat := c.toNat - '0'.toNat

/-- The number that a row of digits denotes, most significant first. -/
def ofDigits (s : List Char) : Nat := s.foldl (fun n c => n * 10 + digitValue c) 0

/-- Read one or more digits and nothing else. -/
def natural? (s : List Char) : Option Nat :=
  if s.isEmpty || !s.all Char.isDigit then none else some (ofDigits s)

/-- Read an optional plus and then digits. -/
def unsigned? : List Char → Option Nat
  | '+' :: rest => natural? rest
  | s => natural? s

/-- Read an optional sign and then digits. -/
def signed? : List Char → Option Int
  | '+' :: rest => (natural? rest).map Int.ofNat
  | '-' :: rest => (natural? rest).map fun n => -Int.ofNat n
  | s => (natural? s).map Int.ofNat

/-- The number as a 64-bit integer, if it is in range. -/
def toInt64? (n : Int) : Option Int64 :=
  if Int64.minValue.toInt ≤ n ∧ n ≤ Int64.maxValue.toInt then some (Int64.ofInt n) else none

/-- The number as a 32-bit natural number, if it is in range. -/
def toUInt32? (n : Nat) : Option UInt32 :=
  if n < UInt32.size then some (UInt32.ofNat n) else none

def int64? (s : List Char) : Option Int64 := (signed? s).bind toInt64?

def uint32? (s : List Char) : Option UInt32 := (unsigned? s).bind toUInt32?

/-- The digits of a number without leading zeros. -/
def digits (n : Nat) : List Char := Nat.toDigits 10 n

def text (n : Nat) : String := String.ofList (digits n)

/-- The characters of an integer: a minus if it is negative, then its digits. -/
def intDigits : Int → List Char
  | .ofNat n => digits n
  | .negSucc n => '-' :: digits (n + 1)

def intText (n : Int) : String := String.ofList (intDigits n)

end RunControl.Numeral
