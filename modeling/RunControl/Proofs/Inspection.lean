import RunControl.Proofs.History

/-!
# The inspection snapshot remembers its history

* `Kind.Shows`, `ShowsScalars`: a collection has the slots that the history says;
* `Agrees`, **`Agrees.step`**: a snapshot keeps what its history says, and every operation keeps it
  so;
* **`Agrees.answer`**, **`answer_apply`**, **`Agrees.of_refused`**: what a snapshot answers, what an
  operation leaves alone, and operations out of range;
* **`answer_reset`**: what a reset forgets;
* **`remembers`**: the three together, after any operations.
-/

namespace RunControl.Snapshot

/-! ## Collections of slots -/

section Shows

variable {γ ε σ : Type} [DecidableEq γ] {k : Kind γ ε} {view : σ → Sheet γ ε} {h : List Change}
  {slots : Slots σ} {c : Change} {i : Nat} {v : σ}

/-- The collection has the slots that the history says. -/
structure Kind.Shows (k : Kind γ ε) (view : σ → Sheet γ ε) (h : List Change) (slots : Slots σ) :
    Prop where
  size : slots.size = k.size h
  get? : ∀ id, (slots.get? id).map view = k.sheet? h id

namespace Kind.Shows

theorem vacant {n : Nat} (hc : k.sized? c = some n) : k.Shows view (c :: h) (Slots.vacant n) where
  size := (k.size_cons_of_sized hc).symm
  get? id := by simp [sheet?, k.extent?_of_sized hc]

theorem extent? (hs : k.Shows view h slots) (id : Nat) :
    k.extent? h id = (slots.get? id).map fun v => (view v).extent := by
  have hget := congrArg (Option.map Sheet.extent) (hs.get? id)
  rw [sheet?, Option.map_map, Option.map_map] at hget
  exact Option.map_id'.symm.trans hget.symm

theorem has (hs : k.Shows view h slots) (id : Nat) (x : γ) :
    k.has h id x = (slots.get? id).any fun v => k.contains (view v).extent x := by
  rw [Kind.has, hs.extent?, Option.any_map]

theorem hasRoom (hs : k.Shows view h slots) (id : Nat) :
    k.hasRoom h id = (slots.get? id).any fun v => k.fits (view v).extent := by
  rw [Kind.hasRoom, hs.extent?, Option.any_map]

theorem get?_of_le (hs : k.Shows view h slots) {id : Nat} (hle : slots.size ≤ id) :
    slots.get? id = none := by
  have hextent : k.extent? h id = none := k.extent?_of_le (hs.size ▸ hle)
  simpa [hs.extent?] using hextent

theorem reset {f : σ → σ} (hs : k.Shows view h slots) (hc : k.sized? c = none)
    (hf : ∀ id, k.forgets id c = true) (hd : ∀ id, k.declares? id c = none)
    (hview : ∀ v, view (f v) = .blank (view v).extent) :
    k.Shows view (c :: h) (slots.map f) where
  size := by rw [Slots.size_map, hs.size, k.size_cons hc]
  get? id := by
    rw [k.sheet?_of_forgets (hf id), k.extent?_cons_of_none hc (hd id), Slots.get?_map,
      hs.extent?, Option.map_map, Option.map_map]
    exact Option.map_congr fun v _ => hview v

theorem of_silent {slots' : Slots σ} (hs : k.Shows view h slots) (hc : k.sized? c = none)
    (hsize : slots'.size = slots.size) (hother : ∀ id, id ≠ i → k.Silent c id)
    (hget : ∀ id, id ≠ i → slots'.get? id = slots.get? id)
    (hi : (slots'.get? i).map view = k.sheet? (c :: h) i) : k.Shows view (c :: h) slots' where
  size := by rw [hsize, hs.size, k.size_cons hc]
  get? id := by
    by_cases hid : id = i
    · rw [hid, hi]
    · rw [hget id hid, (hother id hid).sheet?_cons, hs.get? id]

theorem other (hs : k.Shows view h slots) (hsilent : ∀ id, k.Silent c id) :
    k.Shows view (c :: h) slots :=
  hs.of_silent (i := 0) (hsilent 0).sized rfl (fun id _ => hsilent id) (fun _ _ => rfl)
    (by rw [(hsilent 0).sheet?_cons, hs.get? 0])

theorem declare {extent : ε} (hs : k.Shows view h slots) (hc : k.sized? c = none)
    (hd : k.declares? i c = some extent) (hf : k.forgets i c = true)
    (hother : ∀ id, id ≠ i → k.Silent c id) (hview : view v = .blank extent) :
    k.Shows view (c :: h) (slots.put i v) := by
  refine hs.of_silent hc (Slots.size_put slots i v) hother (fun id hid => ?_) ?_
  · rw [Slots.get?_put, if_neg (fun hi => hid hi.2)]
  · rw [k.sheet?_of_forgets hf, k.extent?_cons hc, hd, Slots.get?_put, ← hs.size]
    by_cases hi : i < slots.size
    · simp [hi, hview]
    · simp [hi, hs.get?_of_le (Nat.not_lt.1 hi)]

section Write

variable {x : γ} {cell : Cell} (hs : k.Shows view h slots) (hc : k.sized? c = none)
  (hd : k.declares? i c = none) (hf : k.forgets i c = false)
  (hw : k.writes? i c = some (x, cell)) (hother : ∀ id, id ≠ i → k.Silent c id)

include hs hc hd hf hw hother

theorem write {f : σ → σ} (hview : ∀ v, slots.get? i = some v → view (f v) =
      if k.contains (view v).extent x && k.fits (view v).extent then (view v).write x cell
      else view v) :
    k.Shows view (c :: h) (slots.modify i f) := by
  refine hs.of_silent hc (Slots.size_modify slots i f) hother (fun id hid => ?_) ?_
  · rw [Slots.get?_modify, if_neg (fun hi => hid hi.2)]
  · rw [k.sheet?_of_writes hc hd hf hw, ← hs.get?, Option.map_map, Slots.get?_modify]
    by_cases hi : i < slots.size
    · rw [if_pos ⟨hi, rfl⟩, Option.map_map]
      exact Option.map_congr fun v hv => hview v hv
    · rw [if_neg (fun h => hi h.1), hs.get?_of_le (Nat.not_lt.1 hi)]
      rfl

theorem write_of_not_fits (hno : ∀ v, slots.get? i = some v → k.fits (view v).extent = false) :
    k.Shows view (c :: h) slots := by
  refine hs.of_silent hc rfl hother (fun _ _ => rfl) ?_
  rw [k.sheet?_of_writes hc hd hf hw, ← hs.get?, Option.map_map]
  refine Option.map_congr fun v hv => ?_
  rw [Function.comp_apply, hno v hv, Bool.and_false, if_neg Bool.false_ne_true]

end Write

end Kind.Shows

end Shows

/-! ## Every operation keeps the snapshot and its history together -/

section Step

variable {h : List Change} {s : Snapshot} {c : Change} {x : Subject} {id : Nat}

theorem Kind.silent_scalar (hc : c.subject? = some x) (hx : x ≠ .scalar id) :
    Kind.scalar.Silent c id := by
  cases c <;> cases hc <;> constructor <;> simp_all [scalar, forgets, Change.subject?]

theorem Kind.silent_vector (hc : c.subject? = some x) (hx : x ≠ .vector id) :
    Kind.vector.Silent c id := by
  cases c <;> cases hc <;> constructor <;> simp_all [vector, forgets]

theorem Kind.silent_matrix (hc : c.subject? = some x) (hx : x ≠ .matrix id) :
    Kind.matrix.Silent c id := by
  cases c <;> cases hc <;> constructor <;> simp_all [matrix, forgets]

/-- The scalars are those that the history says. -/
structure ShowsScalars (h : List Change) (slots : Slots Cell) : Prop where
  size : slots.size = Kind.scalar.size h
  get? : ∀ id, slots.get? id = (Kind.scalar.sheet? h id).map fun p => p.cell ()

/-- The snapshot keeps what its history says. -/
structure Agrees (h : List Change) (s : Snapshot) : Prop where
  scalars : ShowsScalars h s.scalars
  vectors : Kind.vector.Shows VectorSlot.sheet h s.vectors
  matrices : Kind.matrix.Shows MatrixSlot.sheet h s.matrices

theorem Kind.sheet?_scalar_of_write (h : List Change) (id : Nat) (v : Cell) :
    (scalar.sheet? (.writeScalar id v :: h) id).map (fun p => p.cell ()) =
      if id < scalar.size h then some v else none := by
  have hextent : scalar.extent? (.writeScalar id v :: h) id =
      if id < scalar.size h then some () else none := by
    have hd : scalar.declares? id (.writeScalar id v) = some () := by
      simp [scalar, Change.subject?]
    rw [scalar.extent?_cons rfl, hd, Option.some_or]
  rw [sheet?, hextent]
  by_cases hid : id < scalar.size h
  · have hwrites : ∃ before, scalar.writes (.writeScalar id v :: h) id = ((), v) :: before := by
      unfold writes sinceForgotten has hasRoom
      rw [List.takeWhile_cons_of_pos (by simp [forgets, scalar, Change.subject?]),
        List.filterMap_cons_some (b := ((), v)) (by simp [scalar]),
        List.filter_cons_of_pos (by rw [hextent, if_pos hid]; rfl)]
      exact ⟨_, rfl⟩
    obtain ⟨before, hwrites⟩ := hwrites
    simp [hid, cell, hwrites]
  · simp [hid]

theorem Kind.sheet?_scalar_of_declare (h : List Change) (id : Nat) :
    (scalar.sheet? (.declareScalar id :: h) id).map (fun p => p.cell ()) =
      if id < scalar.size h then some .nullValue else none := by
  have hf : scalar.forgets id (.declareScalar id) = true := by
    simp [forgets, scalar, Change.subject?]
  have hd : scalar.declares? id (.declareScalar id) = some () := by
    simp [scalar, Change.subject?]
  rw [scalar.sheet?_of_forgets hf, scalar.extent?_cons rfl, hd, Option.some_or]
  by_cases hid : id < scalar.size h <;> simp [hid, Sheet.blank]

namespace ShowsScalars

variable {slots : Slots Cell}

theorem vacant {n : Nat} (hc : Kind.scalar.sized? c = some n) :
    ShowsScalars (c :: h) (Slots.vacant n) where
  size := (Kind.scalar.size_cons_of_sized hc).symm
  get? id := by simp [Kind.sheet?, Kind.scalar.extent?_of_sized hc]

theorem put {i : Nat} {v : Cell} (hs : ShowsScalars h slots)
    (hc : Kind.scalar.sized? c = none) (hi : c.subject? = some (.scalar i))
    (hsheet : (Kind.scalar.sheet? (c :: h) i).map (fun p => p.cell ()) =
      if i < Kind.scalar.size h then some v else none) :
    ShowsScalars (c :: h) (slots.put i v) where
  size := by rw [Slots.size_put, hs.size, Kind.size_cons _ hc]
  get? id := by
    rw [Slots.get?_put, hs.size]
    by_cases hid : id = i
    · subst hid
      rw [hsheet]
      by_cases hid : id < Kind.scalar.size h
      · rw [if_pos ⟨hid, rfl⟩, if_pos hid]
      · rw [if_neg (fun h => hid h.1), if_neg hid, hs.get?, Kind.sheet?,
          Kind.scalar.extent?_of_le (Nat.not_lt.1 hid)]
        rfl
    · have hsilent : Kind.scalar.Silent c id :=
        Kind.silent_scalar hi (by simpa using Ne.symm hid)
      rw [if_neg (fun h => hid h.2), hsilent.sheet?_cons, hs.get?]

theorem other (hs : ShowsScalars h slots) (hsilent : ∀ id, Kind.scalar.Silent c id) :
    ShowsScalars (c :: h) slots where
  size := by rw [hs.size, Kind.size_cons _ (hsilent 0).sized]
  get? id := by rw [(hsilent id).sheet?_cons, hs.get?]

theorem reset (hs : ShowsScalars h slots) :
    ShowsScalars (.reset :: h) (slots.map fun _ => .nullValue) where
  size := by rw [Slots.size_map, hs.size, Kind.size_cons _ rfl]
  get? id := by
    rw [Kind.scalar.sheet?_of_forgets rfl, Kind.scalar.extent?_cons_of_none rfl rfl,
      Slots.get?_map, hs.get?, Kind.sheet?, Option.map_map, Option.map_map, Option.map_map]
    rfl

end ShowsScalars

/-- The collections are sized one after the other, up to the first that is too large. -/
theorem Agrees.configure (hs : Agrees h s) (scalars vectors matrices : Nat) :
    Agrees (.configure scalars vectors matrices :: h)
      (s.configure scalars vectors matrices).1 := by
  -- A collection that is not sized keeps its slots, and the history says nothing about them.
  have hkept {γ ε : Type} (k : Kind γ ε) (hd : ∀ id, k.declares? id (.configure scalars vectors
      matrices) = none) (hw : ∀ id, k.writes? id (.configure scalars vectors matrices) = none)
      (hk : k.sized? (.configure scalars vectors matrices) = none) (id : Nat) :
      k.Silent (.configure scalars vectors matrices) id :=
    ⟨hk, hd id, by simp [Kind.forgets, hk, hd], hw id⟩
  have hscalars := hkept .scalar (fun _ => rfl) (fun _ => rfl)
  have hvectors := hkept .vector (fun _ => rfl) (fun _ => rfl)
  have hmatrices := hkept .matrix (fun _ => rfl) (fun _ => rfl)
  unfold Snapshot.configure
  by_cases ha : lacksCells scalars
  · rw [if_pos ha]
    exact ⟨hs.scalars.other (hscalars (by simp [Kind.scalar, ha])),
      hs.vectors.other (hvectors (by simp [Kind.vector, ha])),
      hs.matrices.other (hmatrices (by simp [Kind.matrix, ha]))⟩
  rw [if_neg ha]
  have hs₁ : ShowsScalars (.configure scalars vectors matrices :: h) (Slots.vacant scalars) :=
    .vacant (by simp [Kind.scalar, ha])
  by_cases hb : lacksVectors vectors
  · rw [if_pos hb]
    exact ⟨hs₁, hs.vectors.other (hvectors (by simp [Kind.vector, hb])),
      hs.matrices.other (hmatrices (by simp [Kind.matrix, hb]))⟩
  rw [if_neg hb]
  have hs₂ : Kind.vector.Shows VectorSlot.sheet (.configure scalars vectors matrices :: h)
      (Slots.vacant vectors) := .vacant (by simp [Kind.vector, ha, hb])
  by_cases hc : lacksMatrices matrices
  · rw [if_pos hc]
    exact ⟨hs₁, hs₂, hs.matrices.other (hmatrices (by simp [Kind.matrix, hc]))⟩
  · rw [if_neg hc]
    exact ⟨hs₁, hs₂, .vacant (by simp [Kind.matrix, ha, hb, hc])⟩

theorem Kind.Shows.declareVector (hs : Kind.vector.Shows VectorSlot.sheet h s.vectors)
    (i length : Nat) : Kind.vector.Shows VectorSlot.sheet (.declareVector i length :: h)
      ((Change.declareVector i length).apply s).vectors := by
  have hother (id : Nat) (hid : id ≠ i) : Kind.vector.Silent (.declareVector i length) id :=
    Kind.silent_vector rfl (by simpa using hid.symm)
  by_cases hroom : lacksCells length
  · -- There is no room or no such slot: nothing is declared either way.
    have hsame : ((Change.declareVector i length).apply s).vectors = s.vectors := by
      by_cases hi : i < s.vectors.size
      · simp [Change.apply_declareVector, hi, hroom]
      · simp [Change.apply_declareVector, hi, Slots.put_of_le (Nat.not_lt.1 hi)]
    rw [hsame]
    exact hs.other fun id =>
      ⟨rfl, by simp [Kind.vector, hroom], by simp [Kind.forgets, Kind.vector, hroom], rfl⟩
  · have hrun : ((Change.declareVector i length).apply s).vectors =
        s.vectors.put i (VectorSlot.declare length) := by
      simp [Change.apply_declareVector, hroom]
    rw [hrun]
    exact hs.declare rfl (by simp [Kind.vector, hroom]) (by simp [forgets, Kind.vector, hroom])
      hother (VectorSlot.sheet_declare length)

theorem Kind.Shows.declareMatrix (hs : Kind.matrix.Shows MatrixSlot.sheet h s.matrices)
    (i rows columns : Nat) : Kind.matrix.Shows MatrixSlot.sheet (.declareMatrix i rows columns :: h)
      ((Change.declareMatrix i rows columns).apply s).matrices := by
  have hother (id : Nat) (hid : id ≠ i) : Kind.matrix.Silent (.declareMatrix i rows columns) id :=
    Kind.silent_matrix rfl (by simpa using hid.symm)
  by_cases hroom : lacksCells rows
  · have hsame : ((Change.declareMatrix i rows columns).apply s).matrices = s.matrices := by
      by_cases hi : i < s.matrices.size
      · simp [Change.apply, Change.run, hi, hroom]
      · simp [Change.apply, Change.run, hi, Slots.put_of_le (Nat.not_lt.1 hi)]
    rw [hsame]
    exact hs.other fun id =>
      ⟨rfl, by simp [Kind.matrix, hroom], by simp [Kind.forgets, Kind.matrix, hroom], rfl⟩
  · have hrun : ((Change.declareMatrix i rows columns).apply s).matrices =
        s.matrices.put i (MatrixSlot.declare rows columns) := by
      simp [Change.apply_declareMatrix, hroom]
    rw [hrun]
    exact hs.declare rfl (by simp [Kind.matrix, hroom]) (by simp [forgets, Kind.matrix, hroom])
      hother (MatrixSlot.sheet_declare rows columns)

theorem Kind.Shows.writeVector (hs : Kind.vector.Shows VectorSlot.sheet h s.vectors)
    (i index : Nat) (v : Cell) : Kind.vector.Shows VectorSlot.sheet (.writeVector i index v :: h)
      ((Change.writeVector i index v).apply s).vectors := by
  have hw : Kind.vector.writes? i (.writeVector i index v) = some (index, v) := by
    simp [Kind.vector]
  refine hs.write rfl rfl rfl hw (fun id hid => Kind.silent_vector rfl ?_) fun slot _ => ?_
  · simpa using hid.symm
  · simp [VectorSlot.sheet_write, Kind.vector]

theorem Kind.Shows.writeMatrix (hs : Kind.matrix.Shows MatrixSlot.sheet h s.matrices)
    (i row column : Nat) (v : Cell) :
    Kind.matrix.Shows MatrixSlot.sheet (.writeMatrix i row column v :: h)
      ((Change.writeMatrix i row column v).apply s).matrices := by
  have hw : Kind.matrix.writes? i (.writeMatrix i row column v) = some ((row, column), v) := by
    simp [Kind.matrix]
  have hother (id : Nat) (hid : id ≠ i) : Kind.matrix.Silent (.writeMatrix i row column v) id :=
    Kind.silent_matrix rfl (by simpa using hid.symm)
  rw [Change.apply_writeMatrix]
  split_ifs with hroom
  · refine hs.write_of_not_fits rfl rfl rfl hw hother fun slot hslot => ?_
    rw [hslot, Option.any_some, Bool.and_eq_true] at hroom
    rw [fits_sheet, hroom.2, Bool.not_true]
  · refine hs.write rfl rfl rfl hw hother fun slot hslot => ?_
    rw [hslot, Option.any_some] at hroom
    rw [MatrixSlot.sheet_write, contains_sheet, fits_sheet]
    cases hin : slot.contains row column with
    | false => rfl
    | true =>
      have hfree : lacksCells slot.columns = false := by simpa [hin] using hroom
      rw [hfree, Bool.not_false, Bool.and_true]

theorem scalars_apply (hc : c.subject? = some x) (hx : ∀ id, x ≠ .scalar id) :
    (c.apply s).scalars = s.scalars := by
  cases c <;> grind [Change.apply, Change.run, Change.subject?]

theorem vectors_apply (hc : c.subject? = some x) (hx : ∀ id, x ≠ .vector id) :
    (c.apply s).vectors = s.vectors := by
  cases c <;> grind [Change.apply, Change.run, Change.subject?]

theorem matrices_apply (hc : c.subject? = some x) (hx : ∀ id, x ≠ .matrix id) :
    (c.apply s).matrices = s.matrices := by
  cases c <;> grind [Change.apply, Change.run, Change.subject?]

/-- **Every operation keeps the snapshot and its history together.** -/
theorem Agrees.step (hs : Agrees h s) (c : Change) : Agrees (c :: h) (c.apply s) := by
  -- A collection that the operation is not about stays, and the history says nothing about it.
  have hscalars {x : Subject} (hc : c.subject? = some x) (hx : ∀ id, x ≠ .scalar id) :
      ShowsScalars (c :: h) (c.apply s).scalars :=
    (by rw [scalars_apply hc hx]; exact hs.scalars.other fun id => Kind.silent_scalar hc (hx id))
  have hvectors {x : Subject} (hc : c.subject? = some x) (hx : ∀ id, x ≠ .vector id) :
      Kind.vector.Shows VectorSlot.sheet (c :: h) (c.apply s).vectors :=
    (by rw [vectors_apply hc hx]; exact hs.vectors.other fun id => Kind.silent_vector hc (hx id))
  have hmatrices {x : Subject} (hc : c.subject? = some x) (hx : ∀ id, x ≠ .matrix id) :
      Kind.matrix.Shows MatrixSlot.sheet (c :: h) (c.apply s).matrices :=
    (by rw [matrices_apply hc hx]; exact hs.matrices.other fun id => Kind.silent_matrix hc (hx id))
  cases c with
  | configure scalars vectors matrices => exact hs.configure scalars vectors matrices
  | reset =>
    exact ⟨hs.scalars.reset, hs.vectors.reset rfl (fun _ => rfl) (fun _ => rfl)
      VectorSlot.sheet_reset, hs.matrices.reset rfl (fun _ => rfl) (fun _ => rfl)
      MatrixSlot.sheet_reset⟩
  | declareScalar i =>
    exact ⟨hs.scalars.put rfl rfl (Kind.sheet?_scalar_of_declare h i), hvectors rfl nofun,
      hmatrices rfl nofun⟩
  | writeScalar i v =>
    exact ⟨hs.scalars.put rfl rfl (Kind.sheet?_scalar_of_write h i v), hvectors rfl nofun,
      hmatrices rfl nofun⟩
  | declareVector i length =>
    exact ⟨hscalars rfl nofun, hs.vectors.declareVector i length, hmatrices rfl nofun⟩
  | declareMatrix i rows columns =>
    exact ⟨hscalars rfl nofun, hvectors rfl nofun, hs.matrices.declareMatrix i rows columns⟩
  | writeVector i index v =>
    exact ⟨hscalars rfl nofun, hs.vectors.writeVector i index v, hmatrices rfl nofun⟩
  | writeMatrix i row column v =>
    exact ⟨hscalars rfl nofun, hvectors rfl nofun, hs.matrices.writeMatrix i row column v⟩

theorem Agrees.applyAll (hs : Agrees h s) (changes : List Change) :
    Agrees (changes.reverse ++ h) (s.applyAll changes) := by
  induction changes generalizing h s with
  | nil => exact hs
  | cons c changes ih =>
    rw [List.reverse_cons, List.append_assoc]
    exact ih (hs.step c)

theorem agrees_empty : Agrees [] empty where
  scalars := ⟨rfl, fun _ => rfl⟩
  vectors := ⟨rfl, fun _ => rfl⟩
  matrices := ⟨rfl, fun _ => rfl⟩

end Step

/-! ## What is answered -/

section Answers

variable {h : List Change} {s : Snapshot} {c : Change}

theorem Kind.writes_of_extent? {γ ε : Type} {k : Kind γ ε} {id : Nat}
    (he : k.extent? h id = none) : k.writes h id = [] := by
  simp [writes, has, he]

section Kind

variable {γ ε σ : Type} [DecidableEq γ] {k : Kind γ ε} {view : σ → Sheet γ ε} {slots : Slots σ}

theorem Kind.sheet?_cell (k : Kind γ ε) (h : List Change) (id : Nat) (x : γ) :
    ((k.sheet? h id).map fun p => p.cell x).getD .nullValue = k.cell h id x := by
  unfold sheet?
  cases he : k.extent? h id with
  | none => simp [cell, Kind.writes_of_extent? he]
  | some extent => rfl

theorem Kind.lastValue_eq (k : Kind γ ε) (h : List Change) (id : Nat) :
    k.lastValue h id = ((k.last? h id).map (k.cell h id)).getD .nullValue := by
  unfold lastValue last? cell
  cases k.writes h id with
  | nil => rfl
  | cons w writes =>
    obtain ⟨x, v⟩ := w
    simp

theorem Kind.Shows.cell (hs : k.Shows view h slots) (id : Nat) (x : γ) :
    ((slots.get? id).map fun v => (view v).cell x).getD .nullValue = k.cell h id x := by
  rw [← k.sheet?_cell h id x, ← hs.get? id, Option.map_map]
  rfl

theorem Kind.Shows.last? (hs : k.Shows view h slots) (id : Nat) :
    ((slots.get? id).bind fun v => (view v).last) = k.last? h id := by
  have hlast : (k.sheet? h id).bind (·.last) = k.last? h id := by
    unfold sheet?
    cases he : k.extent? h id with
    | none => simp [Kind.last?, Kind.writes_of_extent? he]
    | some extent => rfl
  rw [← hlast, ← hs.get? id, Option.bind_map]
  rfl

end Kind

namespace Agrees

variable (hs : Agrees h s) (id : Nat)

include hs

theorem capacity :
    s.capacity = (Kind.scalar.size h, Kind.vector.size h, Kind.matrix.size h) :=
  Prod.ext hs.scalars.size (Prod.ext hs.vectors.size hs.matrices.size)

theorem scalar : s.scalar id = Kind.scalar.cell h id () := by
  rw [Snapshot.scalar, hs.scalars.get?, Kind.sheet?_cell]

theorem vectorValue (index : Nat) : s.vectorValue id index = Kind.vector.cell h id index :=
  hs.vectors.cell id index

theorem lastVectorIndex : s.lastVectorIndex id = Kind.vector.last? h id := hs.vectors.last? id

theorem vectorLength : s.vectorLength id = (Kind.vector.extent? h id).getD 0 := by
  rw [hs.vectors.extent? id]
  rfl

theorem vectorLastValue : s.vectorLastValue id = Kind.vector.lastValue h id := by
  rw [Snapshot.vectorLastValue, hs.lastVectorIndex, Kind.lastValue_eq]
  cases Kind.vector.last? h id with
  | none => rfl
  | some index => exact hs.vectorValue id index

theorem matrixValue (row column : Nat) :
    s.matrixValue id row column = Kind.matrix.cell h id (row, column) :=
  hs.matrices.cell id (row, column)

theorem lastMatrixPosition : s.lastMatrixPosition id = Kind.matrix.last? h id :=
  hs.matrices.last? id

theorem matrixShape : s.matrixShape id = (Kind.matrix.extent? h id).getD (0, 0) := by
  rw [hs.matrices.extent? id]
  rfl

theorem matrixLastValue : s.matrixLastValue id = Kind.matrix.lastValue h id := by
  rw [Snapshot.matrixLastValue, hs.lastMatrixPosition, Kind.lastValue_eq]
  cases Kind.matrix.last? h id with
  | none => rfl
  | some place => exact hs.matrixValue id place.1 place.2

omit id in
/-- **A snapshot answers as its history says.** -/
theorem answer (q : Query) : s.answer q = History.answer h q := by
  cases q with
  | capacity => rw [Snapshot.answer, hs.capacity, History.answer]
  | scalar id | scalarIsNull id => rw [Snapshot.answer, hs.scalar, History.answer]
  | vectorValue id index => rw [Snapshot.answer, hs.vectorValue, History.answer]
  | vectorLastValue id => rw [Snapshot.answer, hs.vectorLastValue, History.answer]
  | lastVectorIndex id => rw [Snapshot.answer, hs.lastVectorIndex, History.answer]
  | vectorLength id => rw [Snapshot.answer, hs.vectorLength, History.answer]
  | matrixValue id row column => rw [Snapshot.answer, hs.matrixValue, History.answer]
  | matrixLastValue id => rw [Snapshot.answer, hs.matrixLastValue, History.answer]
  | lastMatrixPosition id => rw [Snapshot.answer, hs.lastMatrixPosition, History.answer]
  | matrixShape id => rw [Snapshot.answer, hs.matrixShape, History.answer]

end Agrees

end Answers

/-! ## What an operation leaves alone -/

section Apart

variable {s : Snapshot} {c : Change} {x : Subject} {id : Nat}

theorem get?_scalars_apply (hc : c.subject? = some x) (hx : x ≠ .scalar id) :
    (c.apply s).scalars.get? id = s.scalars.get? id := by
  cases c <;> grind [Change.apply, Change.run, Change.subject?, Slots.get?_put]

theorem get?_vectors_apply (hc : c.subject? = some x) (hx : x ≠ .vector id) :
    (c.apply s).vectors.get? id = s.vectors.get? id := by
  cases c <;>
    grind [Change.apply, Change.run, Change.subject?, Slots.get?_put, Slots.get?_modify]

theorem get?_matrices_apply (hc : c.subject? = some x) (hx : x ≠ .matrix id) :
    (c.apply s).matrices.get? id = s.matrices.get? id := by
  cases c <;>
    grind [Change.apply, Change.run, Change.subject?, Slots.get?_put, Slots.get?_modify]

theorem capacity_apply (hc : c.subject? = some x) : (c.apply s).capacity = s.capacity := by
  cases c <;> grind [Change.apply, Change.run, Change.subject?, capacity, Slots.size_put,
    Slots.size_modify]

theorem vectorLastValue_congr {s' : Snapshot} (h : s'.vectors.get? id = s.vectors.get? id) :
    s'.vectorLastValue id = s.vectorLastValue id := by
  unfold vectorLastValue lastVectorIndex vector?
  rw [h]
  cases (s.vectors.get? id).bind (·.last) <;> simp [vectorValueAt, vectorValue, vector?, h]

theorem matrixLastValue_congr {s' : Snapshot} (h : s'.matrices.get? id = s.matrices.get? id) :
    s'.matrixLastValue id = s.matrixLastValue id := by
  unfold matrixLastValue lastMatrixPosition matrix?
  rw [h]
  cases (s.matrices.get? id).bind (·.last) <;> simp [matrixValueAt, matrixValue, matrix?, h]

/-- **An operation on a slot changes no answer about another one.** -/
theorem answer_apply (hc : c.subject? = some x) {q : Query} (hq : q.subject? ≠ some x) :
    (c.apply s).answer q = s.answer q := by
  cases q with
  | capacity => rw [answer, capacity_apply hc, answer]
  | scalar id | scalarIsNull id =>
    simp only [answer, scalar, get?_scalars_apply hc fun hx => hq (congrArg some hx.symm)]
  | vectorValue id _ | lastVectorIndex id | vectorLength id =>
    simp only [answer, vectorValue, lastVectorIndex, vectorLength, vector?,
      get?_vectors_apply hc fun hx => hq (congrArg some hx.symm)]
  | vectorLastValue id =>
    have hget := get?_vectors_apply (s := s) hc fun hx => hq (congrArg some hx.symm)
    rw [answer, vectorLastValue_congr hget, answer]
  | matrixValue id _ _ | lastMatrixPosition id | matrixShape id =>
    simp only [answer, matrixValue, lastMatrixPosition, matrixShape, matrix?,
      get?_matrices_apply hc fun hx => hq (congrArg some hx.symm)]
  | matrixLastValue id =>
    have hget := get?_matrices_apply (s := s) hc fun hx => hq (congrArg some hx.symm)
    rw [answer, matrixLastValue_congr hget, answer]

end Apart

/-! ## Operations out of range -/

section Refused

variable {h : List Change} {s : Snapshot} {c : Change}

theorem Kind.Shows.unmoved {γ ε σ : Type} [DecidableEq γ] {k : Kind γ ε} {view : σ → Sheet γ ε}
    {slots : Slots σ} {i : Nat} {f : σ → σ} (hs : k.Shows view h slots)
    (hview : ∀ v, slots.get? i = some v → view (f v) = view v) :
    k.Shows view h (slots.modify i f) where
  size := by rw [Slots.size_modify, hs.size]
  get? id := by
    rw [Slots.get?_modify, ← hs.get? id]
    split_ifs with hi
    · rw [Option.map_map]
      exact Option.map_congr fun v hv => hview v (hi.2 ▸ hv)
    · rfl

/-- **An operation out of range changes nothing that can be seen, now or later.** -/
theorem Agrees.of_refused (hs : Agrees h s) (hc : History.refuses h c = true) :
    Agrees h (c.apply s) := by
  cases c with
  | configure | reset => cases hc
  | declareScalar id | writeScalar id v =>
    have hle : s.scalars.size ≤ id := hs.scalars.size ▸ of_decide_eq_true hc
    rw [Change.apply, Change.run, Slots.put_of_le hle]
    exact hs
  | declareVector id length =>
    have hle : s.vectors.size ≤ id := hs.vectors.size ▸ of_decide_eq_true hc
    rw [Change.apply_declareVector, Slots.put_of_le hle]
    split <;> exact hs
  | declareMatrix id rows columns =>
    have hle : s.matrices.size ≤ id := hs.matrices.size ▸ of_decide_eq_true hc
    rw [Change.apply_declareMatrix, Slots.put_of_le hle]
    split <;> exact hs
  | writeVector id index v =>
    refine ⟨hs.scalars, hs.vectors.unmoved fun slot hslot => ?_, hs.matrices⟩
    have hout : Kind.vector.contains slot.sheet.extent index = false := by
      simpa [History.refuses, hs.vectors.has, hslot] using hc
    rw [VectorSlot.sheet_write, if_neg (of_decide_eq_false hout)]
  | writeMatrix id row column v =>
    rw [Change.apply_writeMatrix]
    split
    · exact hs
    · refine ⟨hs.scalars, hs.vectors, hs.matrices.unmoved fun slot hslot => ?_⟩
      have hout : slot.contains row column = false := by
        simpa [History.refuses, hs.matrices.has, hslot, Kind.contains_sheet] using hc
      rw [MatrixSlot.sheet_write, hout, if_neg Bool.false_ne_true]

end Refused

/-! ## Operations without room -/

section Overflow

variable {h : List Change} {s : Snapshot} {c : Change}

theorem overflows_configure (s : Snapshot) (scalars vectors matrices : Nat) :
    (Change.configure scalars vectors matrices).overflows s =
      (lacksCells scalars || lacksVectors vectors || lacksMatrices matrices) := by
  rw [Change.overflows, Change.run, configure]
  cases lacksCells scalars <;> cases lacksVectors vectors <;> cases lacksMatrices matrices <;> rfl

theorem overflows_declareVector (s : Snapshot) (id length : Nat) :
    (Change.declareVector id length).overflows s =
      (id < s.vectors.size && lacksCells length) := by
  rw [Change.overflows, Change.run]
  split <;> simp_all

theorem overflows_declareMatrix (s : Snapshot) (id rows columns : Nat) :
    (Change.declareMatrix id rows columns).overflows s =
      (id < s.matrices.size && lacksCells rows) := by
  rw [Change.overflows, Change.run]
  split <;> simp_all

theorem overflows_writeMatrix (s : Snapshot) (id row column : Nat) (v : Cell) :
    (Change.writeMatrix id row column v).overflows s =
      (s.matrices.get? id).any fun m => m.contains row column && lacksCells m.columns := by
  rw [Change.overflows, Change.run]
  split <;> simp_all

/-- **An operation panics when the history says so.** -/
theorem Agrees.overflows (hs : Agrees h s) (c : Change) :
    c.overflows s = History.overflows h c := by
  cases c with
  | configure scalars vectors matrices => exact overflows_configure s scalars vectors matrices
  | declareVector id length =>
    rw [overflows_declareVector, hs.vectors.size, History.overflows]
  | declareMatrix id rows columns =>
    rw [overflows_declareMatrix, hs.matrices.size, History.overflows]
  | writeMatrix id row column v =>
    rw [overflows_writeMatrix, History.overflows, hs.matrices.has, hs.matrices.hasRoom]
    cases s.matrices.get? id with
    | none => rfl
    | some m => simp only [Option.any_some, Kind.contains_sheet, Kind.fits_sheet, Bool.not_not]
  | _ => rfl

theorem History.overflows_of_refuses (hc : refuses h c = true) : overflows h c = false := by
  cases c <;> simp_all [refuses, overflows, Nat.not_lt.2]

end Overflow

/-! ## Reset -/

/-- The answer where nothing has been written, to a question about what has been written. -/
def Query.blank? : Query → Option Answer
  | capacity | vectorLength _ | matrixShape _ => none
  | scalarIsNull _ => some (.truth true)
  | lastVectorIndex _ => some (.index none)
  | lastMatrixPosition _ => some (.place none)
  | _ => some (.cell .nullValue)

section Reset

variable (s : Snapshot) (id : Nat)

theorem scalar_reset : s.reset.scalar id = .nullValue := by
  have hget : s.reset.scalars.get? id = (s.scalars.get? id).map fun _ => .nullValue :=
    Slots.get?_map _ s.scalars id
  rw [scalar, hget]
  cases s.scalars.get? id <;> rfl

theorem vector?_reset : s.reset.vector? id = (s.vector? id).map VectorSlot.reset :=
  Slots.get?_map _ s.vectors id

theorem matrix?_reset : s.reset.matrix? id = (s.matrix? id).map MatrixSlot.reset :=
  Slots.get?_map _ s.matrices id

theorem lastVectorIndex_reset : s.reset.lastVectorIndex id = none := by
  rw [lastVectorIndex, vector?_reset]
  cases s.vector? id <;> rfl

theorem lastMatrixPosition_reset : s.reset.lastMatrixPosition id = none := by
  rw [lastMatrixPosition, matrix?_reset]
  cases s.matrix? id <;> rfl

/-- **A reset forgets what has been written, and nothing else.** -/
theorem answer_reset (q : Query) : s.reset.answer q = q.blank?.getD (s.answer q) := by
  cases q with
  | capacity => rfl
  | scalar id | scalarIsNull id => simp [answer, Query.blank?, scalar_reset, Cell.isNull]
  | lastVectorIndex id => simp [answer, Query.blank?, lastVectorIndex_reset]
  | lastMatrixPosition id => simp [answer, Query.blank?, lastMatrixPosition_reset]
  | vectorLastValue id =>
    simp [answer, Query.blank?, vectorLastValue, lastVectorIndex_reset, vectorValueAt]
  | matrixLastValue id =>
    simp [answer, Query.blank?, matrixLastValue, lastMatrixPosition_reset, matrixValueAt]
  | vectorValue id index =>
    rw [answer, vectorValue, vector?_reset]
    cases s.vector? id <;> rfl
  | matrixValue id row column =>
    rw [answer, matrixValue, matrix?_reset]
    cases s.matrix? id <;> rfl
  | vectorLength id =>
    rw [answer, vectorLength, vector?_reset, answer, vectorLength]
    cases s.vector? id <;> rfl
  | matrixShape id =>
    rw [answer, matrixShape, matrix?_reset, answer, matrixShape]
    cases s.matrix? id <;> rfl

end Reset

/-! ## The snapshot and its history -/

/-- What holds of a snapshot after the operations `h`, the latest first. Its answers are those that
the history gives. A scalar is declared by a declaration or by a write since the collections were
sized. An operation on a slot changes no answer about another one (`apart`), and one out of range
neither panics nor changes any, whatever is done after it (`refused`). An operation panics if it
asks for more room than there can be, and only then. -/
structure Remembers (h : List Change) (s : Snapshot) : Prop where
  answers : ∀ q, s.answer q = History.answer h q
  declared : ∀ id, (s.scalars.get? id).isSome = (Kind.scalar.extent? h id).isSome
  apart : ∀ c x q, Change.subject? c = some x → q.subject? ≠ some x →
    (c.apply s).answer q = s.answer q
  refused : ∀ c, History.refuses h c = true → c.overflows s = false ∧ ∀ later q,
    ((c.apply s).applyAll later).answer q = (s.applyAll later).answer q
  panics : ∀ c, c.overflows s = History.overflows h c

/-- **A snapshot remembers its history.** -/
theorem remembers (changes : List Change) :
    Remembers changes.reverse (empty.applyAll changes) := by
  have hs : Agrees changes.reverse (empty.applyAll changes) := by
    simpa using agrees_empty.applyAll changes
  refine
    { answers := hs.answer
      declared := fun id => ?_
      apart := fun c x q hc hq => answer_apply hc hq
      refused := fun c hc => ⟨?_, fun later q => ?_⟩
      panics := hs.overflows }
  · rw [hs.scalars.get?, Kind.sheet?, Option.isSome_map, Option.isSome_map]
  · rw [hs.overflows, History.overflows_of_refuses hc]
  · rw [((hs.of_refused hc).applyAll later).answer, (hs.applyAll later).answer]

/-- A matrix may be declared with rows for which there is no room. A write within its range then
panics, and the cell has not been written. -/
theorem unwritten_overlongRow :
    let changes : List Change := [.configure 0 0 1, .declareMatrix 0 1 18446744073709551615]
    let write := Change.writeMatrix 0 0 0 (.value (.integer 7))
    write.overflows (empty.applyAll changes) = true ∧
      (empty.applyAll (changes ++ [write])).answer (.matrixShape 0) =
        .shape 1 18446744073709551615 ∧
      (empty.applyAll (changes ++ [write])).answer (.matrixValue 0 0 0) = .cell .nullValue ∧
      (empty.applyAll (changes ++ [write])).answer (.lastMatrixPosition 0) = .place none := by
  decide

end RunControl.Snapshot
