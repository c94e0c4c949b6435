import RunControl.Inspection.Slots
import RunControl.Memory
import RunControl.Value

/-!
# The inspection snapshot

A debugger looks at scalars, vectors and matrices by number. `configure` sizes the three
collections; a vector or a matrix is declared before it is written, a scalar is declared by its
first write at the latest. Every cell starts as `nullValue`. Wrong numbers and coordinates are
ignored by changes (`Change.run`) and answered by the null value (`Snapshot.answer`). A change that
asks for more room than there can be panics and is cut short.
-/

namespace RunControl

/-- The content of an inspected cell: never written since it was declared or reset, written without
a value, or written with one. -/
inductive Cell
  | nullValue
  | empty
  | value (v : Value)
deriving DecidableEq

namespace Cell

/-- What is written when a value may be missing. -/
def ofOption : Option Value → Cell
  | some v => value v
  | none => empty

def isNull (c : Cell) : Bool := c == nullValue

def value? : Cell → Option Value
  | value v => some v
  | _ => none

end Cell

/-- A declared vector and the index last written. -/
structure VectorSlot where
  cells : Slots Cell
  last : Option Nat
deriving DecidableEq

namespace VectorSlot

def declare (length : Nat) : VectorSlot := ⟨Slots.vacant length, none⟩

def reset (v : VectorSlot) : VectorSlot := declare v.cells.size

def write (v : VectorSlot) (index : Nat) (c : Cell) : VectorSlot :=
  if index < v.cells.size then ⟨v.cells.put index c, some index⟩ else v

def read (v : VectorSlot) (index : Nat) : Cell := (v.cells.get? index).getD .nullValue

end VectorSlot

/-- A declared matrix, the cells that have been written, and the position last written. -/
structure MatrixSlot where
  rows : Nat
  columns : Nat
  cells : Table (Nat × Nat) Cell
  last : Option (Nat × Nat)
deriving DecidableEq

namespace MatrixSlot

def declare (rows columns : Nat) : MatrixSlot := ⟨rows, columns, Table.empty, none⟩

def reset (m : MatrixSlot) : MatrixSlot := declare m.rows m.columns

def contains (m : MatrixSlot) (row column : Nat) : Bool := row < m.rows && column < m.columns

def write (m : MatrixSlot) (row column : Nat) (c : Cell) : MatrixSlot :=
  if m.contains row column then
    { m with cells := m.cells.put (row, column) c, last := some (row, column) }
  else m

def read (m : MatrixSlot) (row column : Nat) : Cell := (m.cells.get? (row, column)).getD .nullValue

end MatrixSlot

/-- The three collections of inspected slots; a slot that is not declared is empty. -/
structure Snapshot where
  scalars : Slots Cell
  vectors : Slots VectorSlot
  matrices : Slots MatrixSlot
deriving DecidableEq

namespace Snapshot

def empty : Snapshot := ⟨Slots.vacant 0, Slots.vacant 0, Slots.vacant 0⟩

/-! ## Room

A scalar, a cell and a row of a matrix take as many bytes. The cells of a row take room when the
first of them is written. -/

/-- There is no room for so many scalars, cells or rows. -/
def lacksCells (count : Nat) : Bool := Memory.isOversized count 24

/-- There is no room for so many vectors. -/
def lacksVectors (count : Nat) : Bool := Memory.isOversized count 40

/-- There is no room for so many matrices. -/
def lacksMatrices (count : Nat) : Bool := Memory.isOversized count 56

/-! ## Changing -/

/-- An operation that changes the snapshot. -/
inductive Change
  | configure (scalars vectors matrices : Nat)
  | reset
  | declareScalar (id : Nat)
  | declareVector (id length : Nat)
  | declareMatrix (id rows columns : Nat)
  | writeScalar (id : Nat) (c : Cell)
  | writeVector (id index : Nat) (c : Cell)
  | writeMatrix (id row column : Nat) (c : Cell)
deriving DecidableEq

/-- Forget all writes and keep the slots. -/
def reset (s : Snapshot) : Snapshot :=
  ⟨s.scalars.map fun _ => .nullValue, s.vectors.map VectorSlot.reset,
    s.matrices.map MatrixSlot.reset⟩

/-- Size the three collections, one after the other, and forget their slots. -/
def configure (s : Snapshot) (scalars vectors matrices : Nat) : Snapshot × Bool :=
  if lacksCells scalars then (s, true)
  else
    let s := { s with scalars := Slots.vacant scalars }
    if lacksVectors vectors then (s, true)
    else
      let s := { s with vectors := Slots.vacant vectors }
      if lacksMatrices matrices then (s, true)
      else ({ s with matrices := Slots.vacant matrices }, false)

/-- Do an operation, and say whether it panics for lack of room. What it has done before it panics
stays. -/
def Change.run (s : Snapshot) : Change → Snapshot × Bool
  | configure scalars vectors matrices => s.configure scalars vectors matrices
  | reset => (s.reset, false)
  | declareScalar id => ({ s with scalars := s.scalars.put id .nullValue }, false)
  | declareVector id length =>
    if id < s.vectors.size && lacksCells length then (s, true)
    else ({ s with vectors := s.vectors.put id (VectorSlot.declare length) }, false)
  | declareMatrix id rows columns =>
    if id < s.matrices.size && lacksCells rows then (s, true)
    else ({ s with matrices := s.matrices.put id (MatrixSlot.declare rows columns) }, false)
  | writeScalar id c => ({ s with scalars := s.scalars.put id c }, false)
  | writeVector id index c =>
    ({ s with vectors := s.vectors.modify id fun v => v.write index c }, false)
  | writeMatrix id row column c =>
    if (s.matrices.get? id).any fun m => m.contains row column && lacksCells m.columns then
      (s, true)
    else ({ s with matrices := s.matrices.modify id fun m => m.write row column c }, false)

/-- The snapshot after an operation. -/
def Change.apply (s : Snapshot) (c : Change) : Snapshot := (c.run s).1

/-- The operation panics with `Memory.overflowMessage`. -/
def Change.overflows (s : Snapshot) (c : Change) : Bool := (c.run s).2

theorem Change.apply_declareVector (s : Snapshot) (id length : Nat) :
    (declareVector id length).apply s =
      if id < s.vectors.size && lacksCells length then s
      else { s with vectors := s.vectors.put id (VectorSlot.declare length) } := by
  rw [apply, run]
  split <;> rfl

theorem Change.apply_declareMatrix (s : Snapshot) (id rows columns : Nat) :
    (declareMatrix id rows columns).apply s =
      if id < s.matrices.size && lacksCells rows then s
      else { s with matrices := s.matrices.put id (MatrixSlot.declare rows columns) } := by
  rw [apply, run]
  split <;> rfl

theorem Change.apply_writeMatrix (s : Snapshot) (id row column : Nat) (c : Cell) :
    (writeMatrix id row column c).apply s =
      if (s.matrices.get? id).any fun m => m.contains row column && lacksCells m.columns then s
      else { s with matrices := s.matrices.modify id fun m => m.write row column c } := by
  rw [apply, run]
  split <;> rfl

/-- The snapshot after operations in order. Who calls them may go on after a panic. -/
def applyAll (s : Snapshot) (changes : List Change) : Snapshot := changes.foldl Change.apply s

/-! ## Reading -/

def vector? (s : Snapshot) (id : Nat) : Option VectorSlot := s.vectors.get? id

def matrix? (s : Snapshot) (id : Nat) : Option MatrixSlot := s.matrices.get? id

def scalar (s : Snapshot) (id : Nat) : Cell := (s.scalars.get? id).getD .nullValue

def vectorValue (s : Snapshot) (id index : Nat) : Cell :=
  ((s.vector? id).map fun v => v.read index).getD .nullValue

/-- The index of a vector last written. -/
def lastVectorIndex (s : Snapshot) (id : Nat) : Option Nat := (s.vector? id).bind (·.last)

def vectorLength (s : Snapshot) (id : Nat) : Nat :=
  ((s.vector? id).map fun v => v.cells.size).getD 0

def matrixValue (s : Snapshot) (id row column : Nat) : Cell :=
  ((s.matrix? id).map fun m => m.read row column).getD .nullValue

/-- The position of a matrix last written. -/
def lastMatrixPosition (s : Snapshot) (id : Nat) : Option (Nat × Nat) :=
  (s.matrix? id).bind (·.last)

/-- The numbers of rows and columns of a matrix. -/
def matrixShape (s : Snapshot) (id : Nat) : Nat × Nat :=
  ((s.matrix? id).map fun m => (m.rows, m.columns)).getD (0, 0)

/-- The sizes of the three collections. -/
def capacity (s : Snapshot) : Nat × Nat × Nat :=
  (s.scalars.size, s.vectors.size, s.matrices.size)

/-- The second half of asking for the vector cell last written: read the cell at the index that
the first half found. -/
def vectorValueAt (s : Snapshot) (id : Nat) : Option Nat → Cell
  | some index => s.vectorValue id index
  | none => .nullValue

def vectorLastValue (s : Snapshot) (id : Nat) : Cell := s.vectorValueAt id (s.lastVectorIndex id)

/-- The second half of asking for the matrix cell last written: read the cell at the position that
the first half found. -/
def matrixValueAt (s : Snapshot) (id : Nat) : Option (Nat × Nat) → Cell
  | some (row, column) => s.matrixValue id row column
  | none => .nullValue

def matrixLastValue (s : Snapshot) (id : Nat) : Cell :=
  s.matrixValueAt id (s.lastMatrixPosition id)

/-- A question about the snapshot. -/
inductive Query
  | capacity
  | scalar (id : Nat)
  | scalarIsNull (id : Nat)
  | vectorValue (id index : Nat)
  | vectorLastValue (id : Nat)
  | lastVectorIndex (id : Nat)
  | vectorLength (id : Nat)
  | matrixValue (id row column : Nat)
  | matrixLastValue (id : Nat)
  | lastMatrixPosition (id : Nat)
  | matrixShape (id : Nat)
deriving DecidableEq

/-- The answer to a question. -/
inductive Answer
  | cell (c : Cell)
  | truth (b : Bool)
  | number (n : Nat)
  | index (index : Option Nat)
  | place (position : Option (Nat × Nat))
  | shape (rows columns : Nat)
  | sizes (scalars vectors matrices : Nat)
deriving DecidableEq

/-- The answer says that nothing has been written. -/
def Answer.isAbsent : Answer → Bool
  | index none | place none => true
  | _ => false

def answer (s : Snapshot) : Query → Answer
  | .capacity => .sizes s.capacity.1 s.capacity.2.1 s.capacity.2.2
  | .scalar id => .cell (s.scalar id)
  | .scalarIsNull id => .truth (s.scalar id).isNull
  | .vectorValue id index => .cell (s.vectorValue id index)
  | .vectorLastValue id => .cell (s.vectorLastValue id)
  | .lastVectorIndex id => .index (s.lastVectorIndex id)
  | .vectorLength id => .number (s.vectorLength id)
  | .matrixValue id row column => .cell (s.matrixValue id row column)
  | .matrixLastValue id => .cell (s.matrixLastValue id)
  | .lastMatrixPosition id => .place (s.lastMatrixPosition id)
  | .matrixShape id => .shape (s.matrixShape id).1 (s.matrixShape id).2

end Snapshot

end RunControl
