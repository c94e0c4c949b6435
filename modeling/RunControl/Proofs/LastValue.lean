import Mathlib.Data.List.Induction
import RunControl.Proofs.Inspection

/-!
# Asking for what has been written last

The question takes the lock of the snapshot twice: once for the coordinate of the cell that has been
written last, once for the cell. Others may change the snapshot in between. The answer is still one
that an undivided question would have had at some moment between the two.

* `Sheet.Next`, **`Sheet.Next.value_cases`**: what one operation does to a slot, and that a cell
  keeps its value or comes to be what an undivided question answers;
* `exists_moment`: the same for any number of operations;
* **`lastValues_linearizable`**: the answer is right at some moment.
-/

namespace RunControl.Snapshot

/-! ## One slot -/

namespace Sheet

variable {γ ε : Type} [DecidableEq γ]

/-- What is in a cell of a slot that may be missing. -/
def value (p : Option (Sheet γ ε)) (x : γ) : Cell := (p.map fun p => p.cell x).getD .nullValue

/-- What is in the cell that has been written last. -/
def lastValue (p : Option (Sheet γ ε)) : Cell :=
  ((p.bind fun p => p.last).map (value p)).getD .nullValue

/-- What an operation can do to a slot. -/
inductive Next : Option (Sheet γ ε) → Option (Sheet γ ε) → Prop
  | same {p : Option (Sheet γ ε)} : Next p p
  | gone {p : Option (Sheet γ ε)} : Next p none
  | blank {p : Option (Sheet γ ε)} {extent : ε} : Next p (some (blank extent))
  | write {p : Sheet γ ε} {x : γ} {v : Cell} : Next (some p) (some (p.write x v))

/-- **A cell keeps its value, or it comes to be what is answered to the question for the last
value.** -/
theorem Next.value_cases {p p' : Option (Sheet γ ε)} (h : Next p p') (x : γ) :
    value p' x = value p x ∨ value p' x = lastValue p' := by
  cases h with
  | same => exact .inl rfl
  | gone | blank => exact .inr rfl
  | @write p y v =>
    by_cases hx : x = y
    · exact .inr (by rw [hx]; rfl)
    · exact .inl (if_neg hx)

end Sheet

/-! ## One operation -/

/-- A vector of the snapshot as a sheet. -/
def vectorSheet? (s : Snapshot) (id : Nat) : Option (Sheet Nat Nat) :=
  (s.vectors.get? id).map VectorSlot.sheet

/-- A matrix of the snapshot as a sheet. -/
def matrixSheet? (s : Snapshot) (id : Nat) : Option (Sheet (Nat × Nat) (Nat × Nat)) :=
  (s.matrices.get? id).map MatrixSlot.sheet

section Next

variable {γ ε σ : Type} [DecidableEq γ] {view : σ → Sheet γ ε} (slots : Slots σ)

theorem Sheet.Next.of_map {f : σ → σ} (hf : ∀ v, view (f v) = .blank (view v).extent) (id : Nat) :
    Next ((slots.get? id).map view) (((slots.map f).get? id).map view) := by
  rw [Slots.get?_map]
  cases slots.get? id with
  | none => exact .same
  | some v =>
    rw [Option.map_some, Option.map_some, Option.map_some, hf]
    exact .blank

theorem Sheet.Next.of_put {v : σ} {extent : ε} (hv : view v = .blank extent) (i id : Nat) :
    Next ((slots.get? id).map view) (((slots.put i v).get? id).map view) := by
  rw [Slots.get?_put]
  split_ifs
  · rw [Option.map_some, hv]
    exact .blank
  · exact .same

theorem Sheet.Next.of_modify {f : σ → σ} {x : γ} {c : Cell}
    (hf : ∀ v, view (f v) = (view v).write x c ∨ view (f v) = view v) (i id : Nat) :
    Next ((slots.get? id).map view) (((slots.modify i f).get? id).map view) := by
  rw [Slots.get?_modify]
  split_ifs
  · cases slots.get? id with
    | none => exact .same
    | some v =>
      simp only [Option.map_some]
      obtain h | h := hf v
      · rw [h]
        exact .write
      · rw [h]
        exact .same
  · exact .same

variable (s : Snapshot) (c : Change) (id : Nat)

theorem next_vector : Sheet.Next (s.vectorSheet? id) ((c.apply s).vectorSheet? id) := by
  cases c with
  | configure scalars vectors matrices =>
    rw [Change.apply, Change.run, configure]
    -- The vectors stay if there is no room for the scalars or for them.
    split
    · exact .same
    · split
      · exact .same
      · split <;> exact .gone
  | reset => exact .of_map s.vectors VectorSlot.sheet_reset id
  | declareVector i length =>
    rw [Change.apply_declareVector]
    split
    · exact .same
    · exact .of_put s.vectors (VectorSlot.sheet_declare length) i id
  | writeVector i index v =>
    refine .of_modify s.vectors (x := index) (c := v) (fun slot => ?_) i id
    rw [VectorSlot.sheet_write]
    split_ifs <;> simp
  | declareMatrix | writeMatrix =>
    rw [vectorSheet?, vectorSheet?, vectors_apply (x := .matrix _) rfl (by rintro i ⟨⟩)]
    exact .same
  | _ => exact .same

theorem next_matrix : Sheet.Next (s.matrixSheet? id) ((c.apply s).matrixSheet? id) := by
  cases c with
  | configure scalars vectors matrices =>
    rw [Change.apply, Change.run, configure]
    split
    · exact .same
    · split
      · exact .same
      · split
        · exact .same
        · exact .gone
  | reset => exact .of_map s.matrices MatrixSlot.sheet_reset id
  | declareMatrix i rows columns =>
    rw [Change.apply_declareMatrix]
    split
    · exact .same
    · exact .of_put s.matrices (MatrixSlot.sheet_declare rows columns) i id
  | writeMatrix i row column v =>
    rw [Change.apply_writeMatrix]
    split
    · exact .same
    · refine .of_modify s.matrices (x := (row, column)) (c := v) (fun slot => ?_) i id
      rw [MatrixSlot.sheet_write]
      split_ifs <;> simp
  | declareVector =>
    rw [matrixSheet?, matrixSheet?, matrices_apply (x := .vector _) rfl (by rintro i ⟨⟩)]
    exact .same
  | _ => exact .same

theorem vectorValue_eq (index : Nat) :
    s.vectorValue id index = Sheet.value (s.vectorSheet? id) index := by
  rw [Sheet.value, vectorSheet?, Option.map_map]
  rfl

theorem vectorLastValue_eq :
    s.vectorLastValue id = Sheet.lastValue (s.vectorSheet? id) := by
  have hlast : (s.vectorSheet? id).bind (·.last) = s.lastVectorIndex id :=
    Option.bind_map ..
  rw [Sheet.lastValue, hlast, vectorLastValue]
  cases s.lastVectorIndex id with
  | none => rfl
  | some index => exact vectorValue_eq s id index

theorem matrixValue_eq (row column : Nat) : s.matrixValue id row column =
    Sheet.value (s.matrixSheet? id) (row, column) := by
  rw [Sheet.value, matrixSheet?, Option.map_map]
  rfl

theorem matrixLastValue_eq :
    s.matrixLastValue id = Sheet.lastValue (s.matrixSheet? id) := by
  have hlast :
      (s.matrixSheet? id).bind (·.last) = s.lastMatrixPosition id :=
    Option.bind_map ..
  rw [Sheet.lastValue, hlast, matrixLastValue]
  cases s.lastMatrixPosition id with
  | none => rfl
  | some place => exact matrixValue_eq s id place.1 place.2

end Next

/-! ## Any number of operations -/

/-- If every operation keeps what is found or makes it what is answered, then what is found after
some operations was answered at some moment. -/
theorem exists_moment {f g : Snapshot → Cell}
    (hstep : ∀ (s : Snapshot) (c : Change),
      f (c.apply s) = f s ∨ f (c.apply s) = g (c.apply s))
    {s : Snapshot} (h : f s = g s) (changes : List Change) :
    ∃ n ≤ changes.length, f (s.applyAll changes) = g (s.applyAll (changes.take n)) := by
  -- The latest operation that matters is looked for from the end.
  induction changes using List.reverseRecOn with
  | nil => exact ⟨0, Nat.le_refl _, h⟩
  | append_singleton changes c ih =>
    have hlast : s.applyAll (changes ++ [c]) = c.apply (s.applyAll changes) := by
      simp [applyAll]
    obtain hkept | hnew := hstep (s.applyAll changes) c
    · obtain ⟨n, hn, hfound⟩ := ih
      refine ⟨n, by rw [List.length_append]; exact Nat.le_add_right_of_le hn, ?_⟩
      rw [hlast, hkept, hfound, List.take_append_of_le_length hn]
    · exact ⟨(changes ++ [c]).length, Nat.le_refl _, by rw [List.take_length, hlast, hnew]⟩

theorem exists_moment_vector (s : Snapshot) (changes : List Change) (id : Nat) :
    ∃ n ≤ changes.length, (s.applyAll changes).vectorValueAt id (s.lastVectorIndex id) =
      (s.applyAll (changes.take n)).vectorLastValue id := by
  cases h : s.lastVectorIndex id with
  | none => exact ⟨0, Nat.zero_le _, by simp [applyAll, vectorLastValue, h, vectorValueAt]⟩
  | some index =>
    have hs : s.vectorValue id index = s.vectorLastValue id := by
      rw [vectorLastValue, h, vectorValueAt]
    refine exists_moment (f := (·.vectorValue id index)) (g := (·.vectorLastValue id))
      (fun s c => ?_) hs changes
    simpa only [vectorValue_eq, vectorLastValue_eq] using (next_vector s c id).value_cases index

theorem exists_moment_matrix (s : Snapshot) (changes : List Change) (id : Nat) :
    ∃ n ≤ changes.length, (s.applyAll changes).matrixValueAt id (s.lastMatrixPosition id) =
      (s.applyAll (changes.take n)).matrixLastValue id := by
  cases h : s.lastMatrixPosition id with
  | none => exact ⟨0, Nat.zero_le _, by simp [applyAll, matrixLastValue, h, matrixValueAt]⟩
  | some place =>
    obtain ⟨row, column⟩ := place
    have hs : s.matrixValue id row column = s.matrixLastValue id := by
      rw [matrixLastValue, h, matrixValueAt]
    refine exists_moment (f := (·.matrixValue id row column)) (g := (·.matrixLastValue id))
      (fun s c => ?_) hs changes
    simpa only [matrixValue_eq, matrixLastValue_eq] using
      (next_matrix s c id).value_cases (row, column)

/-- **The answer to a question for the last value is right at some moment between the two halves of
the question**, whatever operations come between them: what was written last at that moment, which
is what an undivided question would have been answered. -/
theorem lastValues_linearizable (s : Snapshot) (changes : List Change) (id : Nat) :
    (∃ n ≤ changes.length,
      (s.applyAll changes).vectorValueAt id (s.lastVectorIndex id) =
        (s.applyAll (changes.take n)).vectorLastValue id ∧
      (s.applyAll (changes.take n)).vectorLastValue id =
        Sheet.lastValue ((s.applyAll (changes.take n)).vectorSheet? id)) ∧
    ∃ n ≤ changes.length,
      (s.applyAll changes).matrixValueAt id (s.lastMatrixPosition id) =
        (s.applyAll (changes.take n)).matrixLastValue id ∧
      (s.applyAll (changes.take n)).matrixLastValue id =
        Sheet.lastValue ((s.applyAll (changes.take n)).matrixSheet? id) := by
  obtain ⟨n, hn, hvector⟩ := exists_moment_vector s changes id
  obtain ⟨m, hm, hmatrix⟩ := exists_moment_matrix s changes id
  exact ⟨⟨n, hn, hvector, vectorLastValue_eq _ id⟩, m, hm, hmatrix, matrixLastValue_eq _ id⟩

/-- The index that has been found may be out of range when the cell is read. -/
example :
    let s := empty.applyAll [.configure 0 1 0, .declareVector 0 4, .writeVector 0 3 .empty]
    s.lastVectorIndex 0 = some 3 ∧
      ((Change.declareVector 0 2).apply s).vectorValueAt 0 (some 3) = .nullValue := by decide

end RunControl.Snapshot
