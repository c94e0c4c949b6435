import RunControl.Binary64

/-!
# The fewest digits that read back

`Binary64.shortest` finds, for a positive finite number, the shortest decimal `d · 10 ^ e` in the
interval of numbers that round to it, and among the shortest the nearest. `Layout` says how such
digits are written; `Layout.write` writes any number.
-/

namespace RunControl

namespace Binary64

/-- The greatest `e` with `10 ^ e ≤ num / den`, for positive numbers. -/
def floorLog10 (num den : Nat) : Int :=
  let guess := floorLog2 num den * 30103 / 100000
  let holds (e : Int) : Bool := den * (tenPower e).1 ≤ num * (tenPower e).2
  if holds (guess + 1) then guess + 1 else if holds guess then guess else guess - 1

/-- The numbers that round to a given one: the bounds are `low / den` and `high / den`, the number
itself is `mid / den`, and the bounds belong to it iff `closed`. -/
structure Interval where
  low : Nat
  mid : Nat
  high : Nat
  den : Nat
  closed : Bool

/-- The interval of a positive finite number. Below a power of two the neighbours lie half as far
apart. -/
def interval (x : Binary64) : Interval :=
  let m := x.significand
  let (up, down) := twoPower (x.exponent - 2)
  let below := if m = hiddenBit ∧ -1074 < x.exponent then 1 else 2
  ⟨(4 * m - below) * up, 4 * m * up, (4 * m + 2) * up, down, m % 2 == 0⟩

/-- `n · 10 ^ e` lies in the interval. -/
def Interval.contains (i : Interval) (n : Nat) (e : Int) : Bool :=
  let (up, down) := tenPower e
  let point := n * up * i.den
  if i.closed then i.low * down ≤ point && point ≤ i.high * down
  else i.low * down < point && point < i.high * down

/-- What to do with a number exactly between two decimals of the least length. -/
inductive Tie
  | even
  | up

/-- The better of the two neighbours `n` and `n + 1` of the number on the grid of `10 ^ e`, if one
is in the interval. -/
def Interval.nearest (i : Interval) (tie : Tie) (e : Int) : Option Nat :=
  let (up, down) := tenPower e
  let num := i.mid * down
  let den := up * i.den
  let n := num / den
  let rest := num % den
  match i.contains n e, i.contains (n + 1) e with
  | false, false => none
  | true, false => some n
  | false, true => some (n + 1)
  | true, true =>
    if 2 * rest < den then some n
    else if den < 2 * rest then some (n + 1)
    else match tie with
      | .up => some (n + 1)
      | .even => some (n + n % 2)

/-- The shortest digits `d` and the exponent `e` with `d · 10 ^ e` in the interval of a positive
finite number. Seventeen digits always suffice. -/
def shortest (tie : Tie) (x : Binary64) : Nat × Int :=
  let i := x.interval
  let top := floorLog10 i.mid i.den
  let found := (List.range 17).findSome? fun (k : Nat) =>
    let e := top - k
    (i.nearest tie e).map fun n => (n, e)
  found.getD (i.mid, 0)

/-- How a number is written: positionally for decimal exponents in the range, open where an end is
absent, with `.0` if an integral number keeps the point, and as `tie` says if it lies exactly
between two candidates. -/
structure Layout where
  positionalRange : Option (Int × Int)
  keepPoint : Bool
  tie : Tie

/-- Remove zeros at the end, counting them. -/
def stripZeros (n : Nat) (e : Int) : List Char × Int :=
  let ds := Numeral.digits n
  let zeros := (ds.reverse.takeWhile (· == '0')).length
  (ds.take (ds.length - zeros), e + zeros)

/-- Digits with the decimal point at its place. -/
def positional (keepPoint : Bool) (ds : List Char) (e : Int) : List Char :=
  if 0 ≤ e then
    ds ++ List.replicate e.toNat '0' ++ (if keepPoint then ['.', '0'] else [])
  else
    let places := (-e).toNat
    if ds.length ≤ places then
      '0' :: '.' :: List.replicate (places - ds.length) '0' ++ ds
    else ds.take (ds.length - places) ++ '.' :: ds.drop (ds.length - places)

/-- One digit, the others after a point, and a signed power of ten. -/
def scientific (ds : List Char) (e : Int) : List Char :=
  let power := e + ds.length - 1
  let mantissa := match ds with
    | [] => []
    | d :: rest => if rest.isEmpty then [d] else d :: '.' :: rest
  mantissa ++ 'e' :: (if power < 0 then '-' else '+') :: Numeral.digits power.natAbs

def Layout.write (layout : Layout) (x : Binary64) : List Char :=
  let body :=
    if x.isZero then if layout.keepPoint then ['0', '.', '0'] else ['0']
    else
      let (n, e) := x.shortest layout.tie
      let (ds, e) := stripZeros n e
      let power := e + ds.length - 1
      let plain := match layout.positionalRange with
        | none => true
        | some (low, high) => low ≤ power && power < high
      if plain then positional layout.keepPoint ds e else scientific ds e
  if x.isNegative then '-' :: body else body

end Binary64

end RunControl
