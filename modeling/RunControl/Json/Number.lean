import RunControl.Binary64.Shortest
import RunControl.Json

/-!
# Numbers in documents

An integer is read from a literal without fraction and without power of ten; `-0` is none. A real
is read in three steps that each round: the leading digits that fit a 64-bit word, times or divided
by a power of ten. `realLayout` says how a real is written.
-/

namespace RunControl.Json

/-- The parts of a number: its sign, its digits before and after the point, and its power of
ten. -/
structure Literal where
  negative : Bool
  whole : List Char
  fraction : List Char
  power : Option (Bool × List Char)

/-- The sign and the digits of a power of ten. -/
def powerParts : List Char → Bool × List Char
  | '-' :: digits => (true, digits)
  | '+' :: digits => (false, digits)
  | digits => (false, digits)

def literalParts (literal : List Char) : Literal :=
  let (negative, s) := match literal with
    | '-' :: rest => (true, rest)
    | rest => (false, rest)
  let (whole, s) := s.span Char.isDigit
  let (fraction, s) := match s with
    | '.' :: rest => rest.span Char.isDigit
    | rest => ([], rest)
  { negative, whole, fraction, power := match s with
    | [] => none
    | _ :: rest => some (powerParts rest) }

/-- The integer that a literal denotes, if it is one. -/
def integer? (literal : List Char) : Option Int :=
  let (negative, digits) := match literal with
    | '-' :: rest => (true, rest)
    | rest => (false, rest)
  match Numeral.natural? digits with
  | none => none
  | some n => if negative then if n = 0 then none else some (-Int.ofNat n) else some (Int.ofNat n)

/-- Append digits to `n` as long as it fits a word; answer with the digits left over. -/
def appendDigits (n : Nat) : List Char → Nat × List Char
  | [] => (n, [])
  | c :: rest =>
    let next := n * 10 + Numeral.digitValue c
    if UInt64.size ≤ next then (n, c :: rest) else appendDigits next rest

/-- `x · 10 ^ e`, by one multiplication or by divisions of at most 308 places each; nothing if the
product is infinite. -/
def scale : Nat → Binary64 → Int → Option Binary64
  | 0, x, _ => some x
  | steps + 1, x, e =>
    if 0 ≤ e then
      if 308 < e then if x.isZero then some x else none
      else
        let y := x.mul (Binary64.ofDecimal false 1 e)
        if y.isInfinite then none else some y
    else if -308 ≤ e then some (x.div (Binary64.ofDecimal false 1 (-e)))
    else if x.isZero then some x
    else scale steps (x.div (Binary64.ofDecimal false 1 308)) (e + 308)

/-- The same number with the given sign. -/
def withSign (negative : Bool) (x : Binary64) : Binary64 :=
  if negative then ⟨x.bits ||| 0x8000000000000000⟩ else x

/-- The real that a literal denotes; nothing if it is too great. -/
def real? (literal : List Char) : Option Binary64 :=
  let parts := literalParts literal
  let (n, left) := appendDigits 0 parts.whole
  if left.isEmpty && parts.fraction.isEmpty && parts.power.isNone then
    some (withSign parts.negative (Binary64.ofInt n))
  else
    let (m, unread) := appendDigits n parts.fraction
    let e : Int := (left.length : Int) - (parts.fraction.length - unread.length : Nat)
    let x := Binary64.ofInt m
    let scaled := match parts.power with
      | none => scale 8 x e
      | some (down, digits) =>
        let p := Numeral.ofDigits digits
        if 2147483647 < p then if m != 0 && !down then none else some (Binary64.ofMagnitude false 0)
        else scale 8 x (if down then e - p else e + p)
    scaled.map (withSign parts.negative)

/-- Reals are written with a point, and with a power of ten below `1e-5` and from `1e16` on. -/
def realLayout : Binary64.Layout :=
  { positionalRange := some (-5, 16), keepPoint := true, tie := .even }

/-- A real; one that is not finite is written as null. -/
def ofReal (x : Binary64) : Json :=
  if x.isFinite then .number (realLayout.write x) else .null

end RunControl.Json
