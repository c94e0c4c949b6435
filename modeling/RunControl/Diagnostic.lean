import RunControl.Value

/-!
# Diagnostics

A `Diagnostic` is what a controller learns about a run that failed: one of nine kinds, a message
and a position. A coordinate of 0 is unknown; `fillPosition` fills exactly the unknown ones.
-/

namespace RunControl

/-- A place in the source of a program; 0 stands for an unknown coordinate. -/
structure Position where
  line : UInt32
  column : UInt32
deriving DecidableEq

/-- Before any position is reported. -/
def Position.unknown : Position := ⟨0, 0⟩

/-- What kind of problem ended a run. -/
inductive DiagnosticKind
  | outOfMemory
  | stackOverflow
  | indexOutOfBounds
  | divisionByZero
  | arithmetic
  | invalidInput
  | output
  | library
  | unhandled
deriving DecidableEq

namespace DiagnosticKind

/-- The name of a kind in documents. -/
def tag : DiagnosticKind → String
  | outOfMemory => "out_of_memory"
  | stackOverflow => "stack_overflow"
  | indexOutOfBounds => "index_out_of_bounds"
  | divisionByZero => "division_by_zero"
  | arithmetic => "arithmetic"
  | invalidInput => "invalid_input"
  | output => "output"
  | library => "library"
  | unhandled => "unhandled"

def describe : DiagnosticKind → String
  | outOfMemory => "out of memory"
  | stackOverflow => "stack overflow"
  | indexOutOfBounds => "index out of bounds"
  | divisionByZero => "division by zero"
  | arithmetic => "arithmetic error"
  | invalidInput => "invalid input"
  | output => "output error"
  | library => "library error"
  | unhandled => "unhandled error"

def all : List DiagnosticKind :=
  [outOfMemory, stackOverflow, indexOutOfBounds, divisionByZero, arithmetic, invalidInput, output,
    library, unhandled]

end DiagnosticKind

/-- A positioned description of the problem that ended a run. -/
structure Diagnostic where
  kind : DiagnosticKind
  position : Position
  message : String
deriving DecidableEq

namespace Diagnostic

/-- A diagnostic whose position is not known yet. -/
def unplaced (kind : DiagnosticKind) (message : String) : Diagnostic :=
  ⟨kind, Position.unknown, message⟩

/-- The same diagnostic at another position. -/
def place (d : Diagnostic) (position : Position) : Diagnostic := { d with position }

/-- Fill whichever coordinate is unknown. -/
def fillPosition (d : Diagnostic) (last : Position) : Diagnostic :=
  d.place
    ⟨if d.position.line = 0 then last.line else d.position.line,
      if d.position.column = 0 then last.column else d.position.column⟩

def outOfMemory : Diagnostic :=
  unplaced .outOfMemory
    "The program ran out of memory. Check for data structures that grow without bound."

def stackOverflow : Diagnostic :=
  unplaced .stackOverflow
    ("Stack overflow. This usually means a function calls itself without reaching a stopping " ++
      "condition.")

/-- A read was not answered by a value of the expected type. -/
def invalidInput (expected : DataType) : Diagnostic :=
  unplaced .invalidInput ("The value entered is not a valid " ++ expected.name)

/-- Anything without a kind of its own. -/
def unhandled (detail : String) : Diagnostic :=
  unplaced .unhandled ("An unhandled error occurred during execution: " ++ detail)

/-- A diagnostic as one line of text. -/
def display (d : Diagnostic) : String :=
  d.message ++ " (line " ++ Numeral.text d.position.line.toNat ++ ", column " ++
    Numeral.text d.position.column.toNat ++ ")"

end Diagnostic

end RunControl
