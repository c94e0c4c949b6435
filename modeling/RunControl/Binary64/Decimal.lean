import RunControl.Binary64

/-!
# Reading decimal numbers

`Binary64.nearest?` reads an optional sign, digits with at most one point, at least one digit in
all, and an optional power of ten. It answers the nearest number, and `Binary64.read?` answers it if
it is finite.
-/

namespace RunControl.Binary64

/-- The power of ten after the digits: nothing, or `e` or `E` and a signed numeral. -/
def readPower? : List Char → Option Int
  | [] => some 0
  | c :: rest => if c = 'e' ∨ c = 'E' then Numeral.signed? rest else none

/-- The number nearest to digits around at most one point and a power of ten. -/
def nearestUnsigned? (negative : Bool) (s : List Char) : Option Binary64 := do
  let (whole, rest) := s.span Char.isDigit
  let (part, rest) := match rest with
    | '.' :: rest => rest.span Char.isDigit
    | rest => ([], rest)
  if whole.isEmpty && part.isEmpty then none
  else
    let power ← readPower? rest
    some (ofDecimal negative (Numeral.ofDigits (whole ++ part)) (power - part.length))

/-- The number nearest to what is written, infinite if that is too great. -/
def nearest? : List Char → Option Binary64
  | '-' :: rest => nearestUnsigned? true rest
  | '+' :: rest => nearestUnsigned? false rest
  | s => nearestUnsigned? false s

def read? (s : List Char) : Option Binary64 := (nearest? s).filter isFinite

end RunControl.Binary64
