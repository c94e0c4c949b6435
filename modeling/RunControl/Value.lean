import RunControl.Binary64.Shortest

/-!
# Values and their types

A program reads, writes and shows values of five types. `Value.coerce` converts a value to a type
where that is meant to lose nothing: integers widen to reals and characters to texts.
`Value.display` is the text of a value as the console shows it.
-/

namespace RunControl

/-- The type of a value. -/
inductive DataType
  | integer
  | real
  | boolean
  | character
  | text
deriving DecidableEq

def DataType.name : DataType → String
  | integer => "integer"
  | real => "real"
  | boolean => "boolean"
  | character => "character"
  | text => "text"

def DataType.all : List DataType := [integer, real, boolean, character, text]

/-- A value of one of the five types. -/
inductive Value
  | integer (n : Int64)
  | real (x : Binary64)
  | boolean (b : Bool)
  | character (c : Char)
  | text (s : String)
deriving DecidableEq

namespace Value

def type : Value → DataType
  | integer _ => .integer
  | real _ => .real
  | boolean _ => .boolean
  | character _ => .character
  | text _ => .text

/-- The value at the type `target`, if it converts: every value keeps its own type, an integer
becomes the nearest real and a character the text of it alone. -/
def coerce (v : Value) (target : DataType) : Option Value :=
  if v.type = target then some v
  else match v, target with
    | integer n, .real => some (real (Binary64.ofInt n.toInt))
    | character c, .text => some (text (String.singleton c))
    | _, _ => none

/-- Two values are equal: of one type, and reals compared as numbers. -/
def equals : Value → Value → Bool
  | real x, real y => x.equals y
  | v, w => v == w

/-- An integer of 32 bits as a value. -/
def ofInt32 (n : Int32) : Value := integer n.toInt64

/-- Reals are shown in full, without a power of ten and without a point where none is needed. -/
def realLayout : Binary64.Layout :=
  { positionalRange := none, keepPoint := false, tie := .up }

def displayReal (x : Binary64) : List Char :=
  if x.isNaN then ['N', 'a', 'N']
  else if x.isInfinite then if x.isNegative then ['-', 'i', 'n', 'f'] else ['i', 'n', 'f']
  else realLayout.write x

/-- The characters of the text of a value. -/
def displayChars : Value → List Char
  | integer n => Numeral.intDigits n.toInt
  | real x => displayReal x
  | boolean b => if b then "true".toList else "false".toList
  | character c => [c]
  | text s => s.toList

def display (v : Value) : String := String.ofList v.displayChars

end Value

end RunControl
