import RunControl.Diagnostic

/-!
# Faults

A `Fault` is a way in which the body of a program stops other than by finishing. A `RuntimeFault`
is raised by the program's own logic, belongs to a class and may know where it happened. A
`Payload` is what a panic carries.
-/

namespace RunControl

/-- The class of a fault in the logic of a program. -/
inductive FaultClass
  | indexOutOfBounds
  | arithmetic
  | nullReference
  | invalidConversion
  | illegalArgument
  | unsupported
deriving DecidableEq

namespace FaultClass

/-- The name of a class in documents. -/
def tag : FaultClass → String
  | indexOutOfBounds => "index_out_of_bounds"
  | arithmetic => "arithmetic"
  | nullReference => "null_reference"
  | invalidConversion => "invalid_conversion"
  | illegalArgument => "illegal_argument"
  | unsupported => "unsupported"

/-- The name of a class in messages. -/
def describe : FaultClass → String
  | indexOutOfBounds => "IndexOutOfBounds"
  | arithmetic => "Arithmetic"
  | nullReference => "NullReference"
  | invalidConversion => "InvalidConversion"
  | illegalArgument => "IllegalArgument"
  | unsupported => "Unsupported"

def all : List FaultClass :=
  [indexOutOfBounds, arithmetic, nullReference, invalidConversion, illegalArgument, unsupported]

end FaultClass

/-- A fault raised by the logic of a program, with as much of its place as is known, and of an index
that was out of bounds. -/
structure RuntimeFault where
  category : FaultClass
  message : String
  line : Option UInt32
  column : Option UInt32
  index : Option Int64
  length : Option Nat
deriving DecidableEq

namespace RuntimeFault

/-- A fault about which only class and message are known. -/
def plain (category : FaultClass) (message : String) : RuntimeFault :=
  ⟨category, message, none, none, none, none⟩

def outOfBounds (index : Int64) (length : Nat) : RuntimeFault :=
  { plain .indexOutOfBounds
      ("index " ++ Numeral.intText index.toInt ++ " out of bounds for length " ++
        Numeral.text length) with
    index := some index
    length := some length }

def divisionByZero : RuntimeFault := plain .arithmetic "/ by zero"

/-- The same fault at a known position. -/
def place (f : RuntimeFault) (position : Position) : RuntimeFault :=
  { f with line := some position.line, column := some position.column }

def display (f : RuntimeFault) : String := f.category.describe ++ ": " ++ f.message

end RuntimeFault

/-- A library refuses to start or to stop. -/
structure LibraryError where
  library : String
  message : String
deriving DecidableEq

/-- A library error as one line of text. -/
def LibraryError.display (e : LibraryError) : String :=
  "Library '" ++ e.library ++ "' failed: " ++ e.message

/-- A sink refuses output. -/
structure OutputError where
  message : String
deriving DecidableEq

/-- An output error as one line of text. -/
def OutputError.display (e : OutputError) : String := "Output failed: " ++ e.message

/-- What a panic carries: a text, or something that is none. -/
inductive Payload
  | text (message : String)
  | other
deriving DecidableEq

def Payload.message : Payload → String
  | text message => message
  | other => "unknown panic"

/-- The ways in which a body stops other than by finishing. -/
inductive Fault
  | outOfMemory
  | stackOverflow
  | interrupted
  | runtime (fault : RuntimeFault)
  | diagnostic (diagnostic : Diagnostic)
  | library (error : LibraryError)
  | panic (message : String)
deriving DecidableEq

namespace Fault

def tag : Fault → String
  | outOfMemory => "out_of_memory"
  | stackOverflow => "stack_overflow"
  | interrupted => "interrupted"
  | runtime _ => "runtime"
  | diagnostic _ => "diagnostic"
  | library _ => "library"
  | panic _ => "panic"

def display : Fault → String
  | outOfMemory => "out of memory"
  | stackOverflow => "stack overflow"
  | interrupted => "execution interrupted"
  | runtime f => f.display
  | diagnostic d => d.display
  | library e => e.display
  | panic message => "panic: " ++ message

def ofWriteError (e : OutputError) : Fault := diagnostic (Diagnostic.unhandled e.display)

def ofClearError : Fault :=
  diagnostic (Diagnostic.unplaced .output "Execution error while clearing the output")

/-- A read was not answered by a value of the expected type. -/
def invalidInput (expected : DataType) : Fault := diagnostic (Diagnostic.invalidInput expected)

end Fault

end RunControl
