import RunControl.Numeral

/-!
# Real numbers of 64 bits

`Binary64` is a binary64 number of IEEE 754, given by its bits. A finite one is
`± m · 2 ^ q` (`significand`, `exponent`). `ofRatio` rounds an exact quotient to the nearest
number, a tie to the even one; conversion from integers, multiplication and division are
rounded in this way from their exact results. `ofDecimal` reads `n · 10 ^ e`.
-/

namespace RunControl

/-- A binary64 number, by its bits. -/
structure Binary64 where
  bits : UInt64
deriving DecidableEq

namespace Binary64

/-- The bit above the other 63, the sign. -/
def signBit : Nat := Nat.pow 2 63

/-- The bit above the 52 fraction bits. It is no bit of the significand that is written down, but a
bit of most significands. -/
def hiddenBit : Nat := Nat.pow 2 52

/-- The highest fraction bit, which is set in an ordinary NaN. -/
def quietBit : Nat := Nat.pow 2 51

def isNegative (x : Binary64) : Bool := x.bits.toNat / signBit == 1

def exponentField (x : Binary64) : Nat := x.bits.toNat / hiddenBit % 2048

def fractionField (x : Binary64) : Nat := x.bits.toNat % hiddenBit

def isFinite (x : Binary64) : Bool := x.exponentField != 2047

def isNaN (x : Binary64) : Bool := x.exponentField == 2047 && x.fractionField != 0

def isInfinite (x : Binary64) : Bool := x.exponentField == 2047 && x.fractionField == 0

def isZero (x : Binary64) : Bool := x.exponentField == 0 && x.fractionField == 0

/-- The number `m` of `± m · 2 ^ q`. -/
def significand (x : Binary64) : Nat :=
  if x.exponentField = 0 then x.fractionField else hiddenBit + x.fractionField

/-- The number `q` of `± m · 2 ^ q`. -/
def exponent (x : Binary64) : Int :=
  if x.exponentField = 0 then -1074 else (x.exponentField : Int) - 1075

/-- Comparison of numbers: a NaN differs from all, and the two zeros are equal. -/
def equals (x y : Binary64) : Bool :=
  !x.isNaN && !y.isNaN && (x.bits == y.bits || (x.isZero && y.isZero))

/-- The number with the given sign and the given bits below the sign. -/
def ofMagnitude (negative : Bool) (magnitude : Nat) : Binary64 :=
  ⟨UInt64.ofNat (if negative then signBit + magnitude else magnitude)⟩

def infinityBits : Nat := 2047 * hiddenBit

/-- `⌊num / den⌋` rounded to the nearest, a tie to the even neighbour. -/
def divideToEven (num den : Nat) : Nat :=
  let low := num / den
  let rest := num % den
  if 2 * rest < den then low
  else if den < 2 * rest then low + 1
  else low + low % 2

/-- `2 ^ e` as a quotient. -/
def twoPower (e : Int) : Nat × Nat := (Nat.pow 2 e.toNat, Nat.pow 2 (-e).toNat)

/-- `10 ^ e` as a quotient. -/
def tenPower (e : Int) : Nat × Nat := (Nat.pow 10 e.toNat, Nat.pow 10 (-e).toNat)

/-- The greatest `e` with `2 ^ e ≤ num / den`, for positive numbers. -/
def floorLog2 (num den : Nat) : Int :=
  let e : Int := (Nat.log2 num : Int) - Nat.log2 den
  let (up, down) := twoPower e
  if den * up ≤ num * down then e else e - 1

/-- The number nearest to `± num / den`, a tie to the one with an even significand; infinite when
it would be too great. -/
def ofRatio (negative : Bool) (num den : Nat) : Binary64 :=
  if num = 0 ∨ den = 0 then ofMagnitude negative 0
  else
    let q := max (-1074) (floorLog2 num den - 52)
    let (up, down) := twoPower q
    let m := divideToEven (num * down) (den * up)
    ofMagnitude negative (min infinityBits ((q + 1074).toNat * hiddenBit + m))

/-- The number nearest to an integer. -/
def ofInt (n : Int) : Binary64 := ofRatio (n < 0) n.natAbs 1

/-- The absolute value of a finite number as a quotient. -/
def ratio (x : Binary64) : Nat × Nat :=
  let (up, down) := twoPower x.exponent
  (x.significand * up, down)

/-- The rounded product of two finite numbers. -/
def mul (x y : Binary64) : Binary64 :=
  let (a, b) := x.ratio
  let (c, d) := y.ratio
  ofRatio (x.isNegative != y.isNegative) (a * c) (b * d)

/-- The rounded quotient of two finite numbers, the second one not zero. -/
def div (x y : Binary64) : Binary64 :=
  let (a, b) := x.ratio
  let (c, d) := y.ratio
  ofRatio (x.isNegative != y.isNegative) (a * d) (b * c)

/-- The number nearest to `± n · 10 ^ e`. Far outside the range the answer is known without
computing the power. -/
def ofDecimal (negative : Bool) (n : Nat) (e : Int) : Binary64 :=
  let size : Int := (Numeral.digits n).length + e
  if n = 0 ∨ size < -400 then ofMagnitude negative 0
  else if 400 < size then ofMagnitude negative infinityBits
  else
    let (up, down) := tenPower e
    ofRatio negative (n * up) down

end Binary64

end RunControl
