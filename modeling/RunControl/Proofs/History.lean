import Mathlib.Tactic.Common
import RunControl.Inspection

/-!
# What the history of a snapshot says

What a snapshot answers can be read off the operations that have been done, the latest first,
without keeping anything: a cell holds what was written to it last, unless that has been forgotten
since or was out of range. An operation that finds no room says as little as it did: a collection
that it did not come to size keeps its slots, and a slot that it was to declare or write stays.

* `Subject`, `Change.subject?`, `Query.subject?`: the slot that an operation or a question is about;
* `Kind`: what operations say about scalars, vectors and matrices;
* **`History.answer`**, `History.refuses`, **`History.overflows`**: the answer the history gives,
  and which operations it lets be out of range or without room;
* `Sheet`, `Kind.sheet?`: what the history says of one slot, with `Kind.sheet?_of_forgets`,
  `Kind.sheet?_of_writes` and `Kind.Silent.sheet?_cons` for one more operation.
-/

namespace RunControl.Snapshot

/-- A slot. -/
inductive Subject
  | scalar (id : Nat)
  | vector (id : Nat)
  | matrix (id : Nat)
deriving DecidableEq

namespace Change

/-- The slot that an operation is about, if it is about one. -/
def subject? : Change → Option Subject
  | declareScalar id | writeScalar id _ => some (.scalar id)
  | declareVector id _ | writeVector id _ _ => some (.vector id)
  | declareMatrix id _ _ | writeMatrix id _ _ _ => some (.matrix id)
  | configure _ _ _ | reset => none

end Change

/-- The slot that a question is about. -/
def Query.subject? : Query → Option Subject
  | capacity => none
  | scalar id | scalarIsNull id => some (.scalar id)
  | vectorValue id _ | vectorLastValue id | lastVectorIndex id | vectorLength id =>
    some (.vector id)
  | matrixValue id _ _ | matrixLastValue id | lastMatrixPosition id | matrixShape id =>
    some (.matrix id)

/-- A kind of slots. The cells of a slot have coordinates in `γ`. Its extent, in `ε`, says which of
them are there (`contains`) and whether there is room for what has to be made when one of them is
written (`fits`). An operation can size the collection (`sized?`), declare the slot of a number if
it is there (`declares?`), or write something to a cell of it (`writes?`). -/
structure Kind (γ ε : Type) where
  sized? : Change → Option Nat
  declares? : Nat → Change → Option ε
  writes? : Nat → Change → Option (γ × Cell)
  contains : ε → γ → Bool
  fits : ε → Bool

namespace Kind

/-- A scalar is one cell. To write it declares it. -/
def scalar : Kind Unit Unit where
  sized?
    | .configure scalars _ _ => if lacksCells scalars then none else some scalars
    | _ => none
  declares? id c := if c.subject? = some (.scalar id) then some () else none
  writes? id
    | .writeScalar i c => if i = id then some ((), c) else none
    | _ => none
  contains _ _ := true
  fits _ := true

/-- The cells of a vector are numbered. -/
def vector : Kind Nat Nat where
  sized?
    | .configure scalars vectors _ =>
      if lacksCells scalars || lacksVectors vectors then none else some vectors
    | _ => none
  declares? id
    | .declareVector i length => if i = id && !lacksCells length then some length else none
    | _ => none
  writes? id
    | .writeVector i index c => if i = id then some (index, c) else none
    | _ => none
  contains length index := index < length
  fits _ := true

/-- The cells of a matrix have a row and a column. -/
def matrix : Kind (Nat × Nat) (Nat × Nat) where
  sized?
    | .configure scalars vectors matrices =>
      if lacksCells scalars || lacksVectors vectors || lacksMatrices matrices then none
      else some matrices
    | _ => none
  declares? id
    | .declareMatrix i rows columns =>
      if i = id && !lacksCells rows then some (rows, columns) else none
    | _ => none
  writes? id
    | .writeMatrix i row column c => if i = id then some ((row, column), c) else none
    | _ => none
  contains shape place := place.1 < shape.1 && place.2 < shape.2
  fits shape := !lacksCells shape.2

/-! ## What a history says -/

variable {γ ε : Type} (k : Kind γ ε)

/-- The number of slots: that of the latest operation that has sized the collection. -/
def size (h : List Change) : Nat := (h.findSome? k.sized?).getD 0

/-- What has been written to a slot does not count after the operation. -/
def forgets (id : Nat) (c : Change) : Bool :=
  (k.sized? c).isSome || c = .reset || (k.declares? id c).isSome && (k.writes? id c).isNone

/-- The operations since the collection was sized. -/
def sinceSized (h : List Change) : List Change := h.takeWhile fun c => (k.sized? c).isNone

/-- The operations since the latest one that forgets what has been written to the slot. -/
def sinceForgotten (h : List Change) (id : Nat) : List Change :=
  h.takeWhile fun c => !k.forgets id c

/-- The extent of a slot: that of its latest declaration, if the slot is there. -/
def extent? (h : List Change) (id : Nat) : Option ε :=
  if id < k.size h then (k.sinceSized h).findSome? (k.declares? id) else none

/-- A slot has a cell. -/
def has (h : List Change) (id : Nat) (x : γ) : Bool :=
  (k.extent? h id).any fun extent => k.contains extent x

/-- There is room for what has to be made when a cell of a slot is written. -/
def hasRoom (h : List Change) (id : Nat) : Bool := (k.extent? h id).any k.fits

/-- The writes to a slot that count, the latest first: those of its cells, if there is room. -/
def writes (h : List Change) (id : Nat) : List (γ × Cell) :=
  ((k.sinceForgotten h id).filterMap (k.writes? id)).filter fun w =>
    k.has h id w.1 && k.hasRoom h id

/-- What has been written to a cell last. -/
def cell [DecidableEq γ] (h : List Change) (id : Nat) (x : γ) : Cell :=
  ((k.writes h id).lookup x).getD .nullValue

/-- The cell that has been written last. -/
def last? (h : List Change) (id : Nat) : Option γ := (k.writes h id).head?.map (·.1)

/-- What has been written last. -/
def lastValue (h : List Change) (id : Nat) : Cell :=
  ((k.writes h id).head?.map (·.2)).getD .nullValue

end Kind

namespace History

/-- The answer to a question, by the history. -/
def answer (h : List Change) : Query → Answer
  | .capacity => .sizes (Kind.scalar.size h) (Kind.vector.size h) (Kind.matrix.size h)
  | .scalar id => .cell (Kind.scalar.cell h id ())
  | .scalarIsNull id => .truth (Kind.scalar.cell h id ()).isNull
  | .vectorValue id index => .cell (Kind.vector.cell h id index)
  | .vectorLastValue id => .cell (Kind.vector.lastValue h id)
  | .lastVectorIndex id => .index (Kind.vector.last? h id)
  | .vectorLength id => .number ((Kind.vector.extent? h id).getD 0)
  | .matrixValue id row column => .cell (Kind.matrix.cell h id (row, column))
  | .matrixLastValue id => .cell (Kind.matrix.lastValue h id)
  | .lastMatrixPosition id => .place (Kind.matrix.last? h id)
  | .matrixShape id =>
    .shape ((Kind.matrix.extent? h id).getD (0, 0)).1 ((Kind.matrix.extent? h id).getD (0, 0)).2

/-- The operation is about a slot that is not there or not declared, or about a cell outside. -/
def refuses (h : List Change) : Change → Bool
  | .configure _ _ _ | .reset => false
  | .declareScalar id | .writeScalar id _ => Kind.scalar.size h ≤ id
  | .declareVector id _ => Kind.vector.size h ≤ id
  | .declareMatrix id _ _ => Kind.matrix.size h ≤ id
  | .writeVector id index _ => !Kind.vector.has h id index
  | .writeMatrix id row column _ => !Kind.matrix.has h id (row, column)

/-- The operation asks for more room than there can be. One that is refused does not. -/
def overflows (h : List Change) : Change → Bool
  | .configure scalars vectors matrices =>
    lacksCells scalars || lacksVectors vectors || lacksMatrices matrices
  | .declareVector id length => id < Kind.vector.size h && lacksCells length
  | .declareMatrix id rows _ => id < Kind.matrix.size h && lacksCells rows
  | .writeMatrix id row column _ =>
    Kind.matrix.has h id (row, column) && !Kind.matrix.hasRoom h id
  | _ => false

end History

/-! ## Slots as sheets of cells -/

/-- What can be asked of a slot: its extent, the cell written last, and what is in the cells. -/
structure Sheet (γ ε : Type) where
  extent : ε
  last : Option γ
  cell : γ → Cell

namespace Sheet

variable {γ ε : Type}

/-- Nothing has been written. -/
def blank (extent : ε) : Sheet γ ε := ⟨extent, none, fun _ => .nullValue⟩

/-- Write a cell. -/
def write [DecidableEq γ] (p : Sheet γ ε) (x : γ) (c : Cell) : Sheet γ ε :=
  ⟨p.extent, some x, fun y => if y = x then c else p.cell y⟩

end Sheet

end RunControl.Snapshot

namespace RunControl

open Snapshot

/-- A vector as a sheet. -/
def VectorSlot.sheet (v : VectorSlot) : Sheet Nat Nat := ⟨v.cells.size, v.last, v.read⟩

/-- A matrix as a sheet. -/
def MatrixSlot.sheet (m : MatrixSlot) : Sheet (Nat × Nat) (Nat × Nat) :=
  ⟨(m.rows, m.columns), m.last, fun x => m.read x.1 x.2⟩

theorem VectorSlot.sheet_declare (length : Nat) : (declare length).sheet = .blank length := rfl

theorem VectorSlot.sheet_reset (v : VectorSlot) : v.reset.sheet = .blank v.sheet.extent := rfl

theorem VectorSlot.sheet_write (v : VectorSlot) (index : Nat) (c : Cell) :
    (v.write index c).sheet =
      if index < v.sheet.extent then v.sheet.write index c else v.sheet := by
  unfold write
  by_cases h : index < v.cells.size
  · have hread : (VectorSlot.mk (v.cells.put index c) (some index)).read =
        fun i => if i = index then c else v.read i := by
      funext i
      by_cases hi : i = index <;> simp [read, Slots.get?_put, h, hi]
    simp only [sheet, h, if_true, Slots.size_put, hread, Sheet.write]
  · simp only [sheet, h, if_false]

theorem MatrixSlot.sheet_declare (rows columns : Nat) :
    (declare rows columns).sheet = .blank (rows, columns) := rfl

theorem MatrixSlot.sheet_reset (m : MatrixSlot) : m.reset.sheet = .blank m.sheet.extent := rfl

theorem MatrixSlot.sheet_write (m : MatrixSlot) (row column : Nat) (c : Cell) :
    (m.write row column c).sheet =
      if m.contains row column then m.sheet.write (row, column) c else m.sheet := by
  unfold write
  split
  · have hread : (fun x : Nat × Nat => ({ m with
          cells := m.cells.put (row, column) c
          last := some (row, column) } : MatrixSlot).read x.1 x.2) =
        fun x => if x = (row, column) then c else m.read x.1 x.2 := by
      funext x
      by_cases hx : x = (row, column) <;> simp [read, Table.get?_put, hx]
    simp only [sheet, hread, Sheet.write]
  · rfl

end RunControl

namespace RunControl.Snapshot

theorem Kind.contains_sheet (m : MatrixSlot) (row column : Nat) :
    Kind.matrix.contains m.sheet.extent (row, column) = m.contains row column := rfl

theorem Kind.fits_sheet (m : MatrixSlot) :
    Kind.matrix.fits m.sheet.extent = !lacksCells m.columns := rfl

/-! ## One more operation -/

section Cons

variable {γ ε : Type} (k : Kind γ ε) {h : List Change} {id : Nat} {c : Change}

namespace Kind

theorem size_cons (hc : k.sized? c = none) : k.size (c :: h) = k.size h := by
  simp [size, hc]

theorem size_cons_of_sized {n : Nat} (hc : k.sized? c = some n) : k.size (c :: h) = n := by
  simp [size, hc]

theorem extent?_of_le (hle : k.size h ≤ id) : k.extent? h id = none :=
  if_neg (Nat.not_lt.2 hle)

theorem extent?_cons (hc : k.sized? c = none) :
    k.extent? (c :: h) id =
      if id < k.size h then (k.declares? id c).or (k.extent? h id) else none := by
  unfold extent? sinceSized
  rw [k.size_cons hc, List.takeWhile_cons_of_pos (by simp [hc]), List.findSome?_cons]
  split_ifs
  · cases k.declares? id c <;> rfl
  · rfl

theorem extent?_cons_of_none (hc : k.sized? c = none) (hd : k.declares? id c = none) :
    k.extent? (c :: h) id = k.extent? h id := by
  rw [k.extent?_cons hc, hd, Option.none_or]
  split_ifs with hlt
  · rfl
  · exact (if_neg hlt).symm

theorem extent?_of_sized {n : Nat} (hc : k.sized? c = some n) : k.extent? (c :: h) id = none := by
  unfold extent? sinceSized
  rw [List.takeWhile_cons_of_neg (by simp [hc])]
  split_ifs <;> rfl

theorem writes_cons_of_forgets (hf : k.forgets id c = true) : k.writes (c :: h) id = [] := by
  unfold writes sinceForgotten
  rw [List.takeWhile_cons_of_neg (by simp [hf])]
  rfl

theorem writes_cons (he : k.extent? (c :: h) id = k.extent? h id) (hf : k.forgets id c = false) :
    k.writes (c :: h) id =
      ((k.writes? id c).filter fun w => k.has h id w.1 && k.hasRoom h id).toList ++
        k.writes h id := by
  unfold writes sinceForgotten has hasRoom
  rw [he, List.takeWhile_cons_of_pos (by simp [hf])]
  cases hw : k.writes? id c with
  | none => rw [List.filterMap_cons_none hw]; rfl
  | some w =>
    rw [List.filterMap_cons_some hw, List.filter_cons, Option.filter_some]
    split_ifs <;> rfl

variable [DecidableEq γ]

/-- What the history says of a slot. -/
def sheet? (h : List Change) (id : Nat) : Option (Sheet γ ε) :=
  (k.extent? h id).map fun extent => ⟨extent, k.last? h id, k.cell h id⟩

/-- An operation that forgets what has been written to the slot. -/
theorem sheet?_of_forgets (hf : k.forgets id c = true) :
    k.sheet? (c :: h) id = (k.extent? (c :: h) id).map Sheet.blank := by
  have hcell : k.cell (c :: h) id = fun _ => .nullValue := by
    funext x
    rw [cell, k.writes_cons_of_forgets hf]
    rfl
  unfold sheet? last?
  rw [hcell, k.writes_cons_of_forgets hf]
  rfl

/-- A write within the extent, if there is room, is the latest one; any other does not count. -/
theorem sheet?_of_writes {x : γ} {v : Cell} (hc : k.sized? c = none)
    (hd : k.declares? id c = none) (hf : k.forgets id c = false)
    (hw : k.writes? id c = some (x, v)) :
    k.sheet? (c :: h) id = (k.sheet? h id).map fun p =>
      if k.contains p.extent x && k.fits p.extent then p.write x v else p := by
  have he := k.extent?_cons_of_none (h := h) hc hd
  have hwrites := k.writes_cons he hf
  unfold sheet?
  rw [he, Option.map_map]
  refine Option.map_congr fun extent hextent => ?_
  rw [hw, Option.filter_some, has, hasRoom, hextent, Option.any_some, Option.any_some] at hwrites
  unfold last? cell
  rw [hwrites, Function.comp_apply]
  by_cases hin : (k.contains extent x && k.fits extent) = true
  · have hread : (fun y => (((x, v) :: k.writes h id).lookup y).getD .nullValue) =
        fun y => if y = x then v else ((k.writes h id).lookup y).getD .nullValue := by
      funext y
      by_cases hy : y = x
      · simp [hy]
      · simp only [List.lookup_cons, beq_eq_false_iff_ne.2 hy, hy, if_false]
    rw [if_pos hin, if_pos hin]
    simpa [Sheet.write] using hread
  · rw [if_neg hin, if_neg hin]
    rfl

/-- The operation says nothing about the slot. -/
structure Silent (k : Kind γ ε) (c : Change) (id : Nat) : Prop where
  sized : k.sized? c = none
  declares : k.declares? id c = none
  forgets : k.forgets id c = false
  writes : k.writes? id c = none

variable {k} in
theorem Silent.sheet?_cons (hs : k.Silent c id) : k.sheet? (c :: h) id = k.sheet? h id := by
  have he := k.extent?_cons_of_none (h := h) hs.sized hs.declares
  have hwrites : k.writes (c :: h) id = k.writes h id := by
    rw [k.writes_cons he hs.forgets, hs.writes]
    rfl
  unfold sheet? last? cell
  rw [he, hwrites]

end Kind

end Cons

end RunControl.Snapshot
