import RunControl.Numeral
import RunControl.Text

/-!
# Lists of lines as they are typed

`Breakpoints.linesOfText` reads numbers between commas. Blanks around a piece are ignored, empty
pieces are skipped, and the first piece that is no line number is refused.
-/

namespace RunControl.Breakpoints

/-- A piece that is no line number. -/
structure LineError where
  text : String
deriving DecidableEq

/-- What is said about a refused piece. -/
def LineError.message (e : LineError) : String := "Invalid line number '" ++ e.text ++ "'"

/-- The pieces between commas, trimmed, without the empty ones. -/
def pieces (s : List Char) : List (List Char) :=
  ((s.splitOn ',').map Text.trim).filter fun piece => !piece.isEmpty

def lineOfPiece (piece : List Char) : Except LineError UInt32 :=
  match Numeral.uint32? piece with
  | some line => .ok line
  | .none => .error ⟨String.ofList piece⟩

def linesOfText (s : String) : Except LineError (List UInt32) :=
  (pieces s.toList).mapM lineOfPiece

end RunControl.Breakpoints
