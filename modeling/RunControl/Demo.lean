import RunControl.Body
import RunControl.Program
import RunControl.Text

/-!
# The bundled programs

Five small programs with the source they pretend to come from. Source lines are numbered from 1, so
the table of breakpoints is one line longer than the source. `Demo.routine` is the body of a demo
for given arguments.
-/

namespace RunControl

/-- A bundled program. -/
inductive Demo
  | sum
  | countdown
  | divide
  | bounds
  | grid
deriving DecidableEq

namespace Demo

def all : List Demo := [sum, countdown, divide, bounds, grid]

def name : Demo → String
  | sum => "sum"
  | countdown => "countdown"
  | divide => "divide"
  | bounds => "bounds"
  | grid => "grid"

def ofName? (name : String) : Option Demo := all.find? fun d => d.name = name

def description : Demo → String
  | sum => "Read two integers (or take them as arguments) and print their sum"
  | countdown => "Fill a vector counting down from N (argument, default 5)"
  | divide => "Read two integers and divide them; fails on division by zero"
  | bounds => "Index past the end of a vector; fails with an index error"
  | grid => "Fill a 3x3 matrix row by row"

def sourceLines : Demo → List String
  | sum =>
    ["program sum",
      "  integer a, b",
      "  read(a)",
      "  read(b)",
      "  integer total = a + b",
      "  write(\"sum = \", total)",
      "end"]
  | countdown =>
    ["program countdown",
      "  integer n = 5",
      "  integer steps[n]",
      "  for i from 0 to n - 1",
      "    steps[i] = n - i",
      "    write(steps[i], \" \")",
      "  end for",
      "  write(\"liftoff\")",
      "end"]
  | divide =>
    ["program divide",
      "  integer a, b",
      "  read(a)",
      "  read(b)",
      "  write(a / b)",
      "end"]
  | bounds =>
    ["program bounds",
      "  integer values[5] = \x7b1, 2, 3, 4, 5\x7d",
      "  integer i = 10",
      "  write(values[i])",
      "end"]
  | grid =>
    ["program grid",
      "  integer grid[3][3]",
      "  for row from 0 to 2",
      "    for col from 0 to 2",
      "      grid[row][col] = row * 3 + col",
      "    end for",
      "  end for",
      "  write(grid[2][2])",
      "end"]

def source (d : Demo) : String := String.intercalate "\n" d.sourceLines

/-- A line of the source, counted from 1. -/
def sourceLine? (d : Demo) (line : Nat) : Option String :=
  if line = 0 then none else d.sourceLines[line - 1]?

def info (d : Demo) : ProgramInfo :=
  { name := d.name
    lineCount := d.sourceLines.length + 1
    functions := ["main"]
    entryFunction := "main"
    sourceFile := some (d.name ++ ".step") }

/-- The numbers of inspected scalars, vectors and matrices. -/
def layout : Demo → Nat × Nat × Nat
  | sum => (3, 0, 0)
  | countdown => (1, 1, 0)
  | divide => (2, 0, 0)
  | bounds => (1, 1, 0)
  | grid => (0, 0, 1)

/-! ## Bodies -/

section Bodies

variable {κ : Type}

/-- The integer of an argument; the fault is placed at the given line. -/
def integerArgument (arg : String) (line : UInt32) : Routine κ Int64 :=
  match Numeral.int64? (Text.trim arg.toList) with
  | some n => pure n
  | none =>
    let fault := RuntimeFault.plain .invalidConversion ("'" ++ arg ++ "' is not an integer")
    Routine.fail (.runtime (fault.place ⟨line, 1⟩))

/-- The integer of an exact result; overflow is a fault. -/
def exact (result : Int) (position : Position) : Routine κ Int64 :=
  match Numeral.toInt64? result with
  | some n => pure n
  | none =>
    Routine.fail (.runtime ((RuntimeFault.plain .arithmetic "integer overflow").place position))

variable [Asks κ]

def showScalar (id : Nat) (n : Int64) : Routine κ Unit :=
  Routine.change (.writeScalar id (.value (.integer n)))

def writeText (s : String) : Routine κ Unit := Routine.write (.text s)

def writeInteger (n : Int64) : Routine κ Unit := Routine.write (.integer n)

/-- Two arguments as integers, if there are exactly two. -/
def twoIntegers : List String → Routine κ (Option (Int64 × Int64))
  | [a, b] => do
    let a ← integerArgument a 3
    let b ← integerArgument b 4
    pure (some (a, b))
  | _ => pure none

/-- The sum of two integers, from the arguments or from the input. -/
def sumRoutine (args : List String) : Routine κ Unit := do
  (List.range 3).forM fun id => Routine.change (.declareScalar id)
  let given ← twoIntegers args
  Routine.pausePoint 3 3
  let a ← match given with
    | some (a, _) => pure a
    | none => Routine.readInteger
  showScalar 0 a
  Routine.pausePoint 4 3
  let b ← match given with
    | some (_, b) => pure b
    | none => Routine.readInteger
  showScalar 1 b
  Routine.pausePoint 5 3
  let total ← exact (a.toInt + b.toInt) ⟨5, 21⟩
  showScalar 2 total
  Routine.pausePoint 6 3
  writeText "sum = "
  writeInteger total
  writeText "\n"

/-- The greatest number to count down from. -/
def maxCountdown : Nat := 20

/-- A vector that counts down from an argument, or from 5. -/
def countdownRoutine (args : List String) : Routine κ Unit := do
  Routine.pausePoint 2 3
  let n ← match args with
    | arg :: _ => integerArgument arg 2
    | [] => pure 5
  if n.toInt < 1 ∨ (maxCountdown : Int) < n.toInt then
    Routine.fail (.runtime ((RuntimeFault.plain .illegalArgument
      ("n must be between 1 and " ++ Numeral.text maxCountdown ++ ", got " ++
        Numeral.intText n.toInt)).place ⟨2, 15⟩))
  Routine.change (.declareScalar 0)
  showScalar 0 n
  Routine.pausePoint 3 3
  let length := n.toInt.toNat
  Routine.change (.declareVector 0 length)
  (List.range length).forM fun i => do
    Routine.checkInterrupted
    Routine.pausePoint 4 3
    Routine.pausePoint 5 5
    let step := n - Int64.ofNat i
    Routine.change (.writeVector 0 i (.value (.integer step)))
    Routine.pausePoint 6 5
    writeInteger step
    writeText " "
  Routine.pausePoint 8 3
  writeText "liftoff\n"

/-- The quotient of two integers, rounded toward zero; a divisor of zero is a fault. -/
def quotient (a b : Int64) (position : Position) : Routine κ Int64 :=
  if b = 0 then Routine.fail (.runtime (RuntimeFault.divisionByZero.place position))
  else exact (a.toInt.tdiv b.toInt) position

/-- The quotient of two integers from the input. -/
def divideRoutine : Routine κ Unit := do
  Routine.change (.declareScalar 0)
  Routine.change (.declareScalar 1)
  Routine.pausePoint 3 3
  let a ← Routine.readInteger
  showScalar 0 a
  Routine.pausePoint 4 3
  let b ← Routine.readInteger
  showScalar 1 b
  Routine.pausePoint 5 3
  let q ← quotient a b ⟨5, 11⟩
  writeInteger q
  writeText "\n"

/-- An index past the end of a vector of five. -/
def boundsRoutine : Routine κ Unit := do
  let values : List Int64 := [1, 2, 3, 4, 5]
  Routine.pausePoint 2 3
  Routine.change (.declareVector 0 values.length)
  values.zipIdx.forM fun p => Routine.change (.writeVector 0 p.2 (.value (.integer p.1)))
  Routine.pausePoint 3 3
  let i : Int64 := 10
  Routine.change (.declareScalar 0)
  showScalar 0 i
  Routine.pausePoint 4 3
  match values[i.toInt.toNat]? with
  | some value =>
    writeInteger value
    writeText "\n"
  | none => Routine.fail (.runtime (RuntimeFault.outOfBounds i values.length))

/-- A matrix of three rows and three columns, filled in order. -/
def gridRoutine : Routine κ Unit := do
  Routine.pausePoint 2 3
  Routine.change (.declareMatrix 0 3 3)
  (List.range 3).forM fun row => do
    Routine.pausePoint 3 3
    (List.range 3).forM fun col => do
      Routine.pausePoint 4 5
      Routine.pausePoint 5 7
      Routine.change (.writeMatrix 0 row col (.value (.integer (Int64.ofNat (row * 3 + col)))))
  Routine.pausePoint 8 3
  writeInteger 8
  writeText "\n"

/-- The body of a program for the given arguments. -/
def routine (d : Demo) (args : List String) : Routine κ Unit :=
  match d with
  | sum => sumRoutine args
  | countdown => countdownRoutine args
  | divide => divideRoutine
  | bounds => boundsRoutine
  | grid => gridRoutine

end Bodies

end Demo

end RunControl
