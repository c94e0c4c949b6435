import RunControl.Binary64.Decimal
import RunControl.Text
import RunControl.Value

/-!
# Values as they are typed

`Value.ofLine` reads one typed line as a value of a given type. Blanks around it are ignored,
except that a text keeps all but the line end. A line that does not fit is refused with the
trimmed text.
-/

namespace RunControl

/-- A typed text that is not a value of the type asked for. -/
structure EntryError where
  text : String
  expected : DataType
deriving DecidableEq

/-- What is said about a refused text. -/
def EntryError.message (e : EntryError) : String :=
  "'" ++ e.text ++ "' is not a valid " ++ e.expected.name

namespace Value

/-- A finite real; a comma may stand for the point. -/
def realOfChars? (s : List Char) : Option Binary64 :=
  Binary64.read? (s.map fun c => if c = ',' then '.' else c)

/-- A truth value in English or Portuguese, in any letter case. -/
def booleanOfChars? (s : List Char) : Option Bool :=
  let word := Text.lowerAscii s
  if word = "true".toList ∨ word = "verdadeiro".toList then some true
  else if word = "false".toList ∨ word = "falso".toList then some false
  else none

def characterOfChars? : List Char → Option Char
  | [c] => some c
  | _ => none

/-- Read a line without its end, given together with its trimmed form. -/
def ofTrimmed? (line trimmed : List Char) : DataType → Option Value
  | .integer => (Numeral.int64? trimmed).map .integer
  | .real => (realOfChars? trimmed).map .real
  | .boolean => (booleanOfChars? trimmed).map .boolean
  | .character => (characterOfChars? trimmed).map .character
  | .text => some (.text (String.ofList line))

/-- Read a typed line as a value of the type `type`. -/
def ofLine (input : String) (type : DataType) : Except EntryError Value :=
  let line := Text.trimEnd Text.isLineEnd input.toList
  let trimmed := Text.trim line
  match ofTrimmed? line trimmed type with
  | some v => .ok v
  | none => .error ⟨String.ofList trimmed, type⟩

end Value

end RunControl
