import Mathlib.Tactic.Common
import RunControl.Control

/-!
# When a critical section is accepted, and what it leaves

* `start_eq_some_iff`, `resume_eq_some_iff`, `interrupt_eq_some_iff`, `settle_eq_some_iff`,
  `openRead_eq_some_iff`: the sections that may be refused, with the state they lead to;
* `takeAnswer_of_interrupted` and the lemmas after it: what the last look at a read leaves.
-/

namespace RunControl.Control

variable {c c' : Control} {mode : DebugMode} {ticket : UInt64} {answer : Option Value}

theorem start_eq_some_iff :
    c.start mode = some c' ↔ c.alive = false ∧
      c' = { c with interrupted := false, mode, alive := true, position := Position.unknown } := by
  unfold start
  split_ifs with h
  · simp [h]
  · simp only [Option.some.injEq, h, true_and, eq_comm]

theorem resume_eq_some_iff :
    c.resume mode = some c' ↔ c.isRunning = true ∧
      c' = { c with
        mode
        read := if c.read.awaiting then { c.read with abandoned := true } else c.read
        generation := c.generation + 1 } := by
  unfold resume
  split_ifs with h <;> simp [h, eq_comm]

theorem interrupt_eq_some_iff :
    c.interrupt = some c' ↔ c.isRunning = true ∧ c' = { c with interrupted := true } := by
  unfold interrupt isRunning
  cases c.alive <;> cases c.interrupted <;> simp [eq_comm]

theorem settle_eq_some_iff :
    c.settle ticket answer = some c' ↔
      (c.read.awaiting = true ∧ c.read.ticket = ticket ∧ c.read.isOpen = true) ∧
        c' = { c with read := { c.read with outcome := ReadOutcome.ofAnswer answer } } := by
  unfold settle
  split_ifs with h
  · simp only [Bool.or_eq_true, Bool.not_eq_true', bne_iff_ne, ne_eq] at h
    simp only [false_iff, not_and]
    rintro ⟨h1, h2, h3⟩
    simp_all
  · simp only [Bool.or_eq_true, Bool.not_eq_true', bne_iff_ne, ne_eq, not_or, Bool.not_eq_false,
      Decidable.not_not] at h
    simp [h, eq_comm]

theorem openRead_eq_some_iff :
    c.openRead = some c' ↔ c.interrupted = false ∧
      c' = { c with read := ⟨true, false, c.read.ticket + 1, .pending⟩ } := by
  unfold openRead
  split_ifs with h
  · simp [h]
  · simp only [Option.some.injEq, h, true_and, eq_comm]

theorem isOpen_iff {r : ReadState} :
    r.isOpen = true ↔ r.outcome = .pending ∧ r.abandoned = false := by
  simp [ReadState.isOpen]

theorem isHeld_iff {generation : UInt64} :
    c.isHeld generation = true ↔ c.generation = generation ∧ c.interrupted = false := by
  simp [isHeld]

theorem isHeld_of_resume {generation : UInt64} (h : c.resume mode = some c')
    (hheld : c.isHeld generation = true) : c'.isHeld generation = false := by
  obtain ⟨-, rfl⟩ := resume_eq_some_iff.1 h
  obtain ⟨rfl, -⟩ := isHeld_iff.1 hheld
  have hne : c.generation + 1 ≠ c.generation := by
    rw [ne_eq, UInt64.add_eq_left]
    decide
  simp [isHeld, hne]

theorem awaitsAnswer_iff :
    c.awaitsAnswer = true ↔
      c.read.outcome = .pending ∧ c.read.abandoned = false ∧ c.interrupted = false := by
  simp [awaitsAnswer, isOpen_iff, and_assoc]

theorem takeAnswer_of_interrupted {type : DataType} (h : c.interrupted = true) :
    c.takeAnswer type = (c, .error .interrupted) := by
  simp [takeAnswer, h]

@[simp] theorem alive_takeAnswer (type : DataType) : (c.takeAnswer type).1.alive = c.alive := by
  unfold takeAnswer; split_ifs <;> rfl

@[simp] theorem interrupted_takeAnswer (type : DataType) :
    (c.takeAnswer type).1.interrupted = c.interrupted := by
  unfold takeAnswer; split_ifs <;> rfl

@[simp] theorem generation_takeAnswer (type : DataType) :
    (c.takeAnswer type).1.generation = c.generation := by
  unfold takeAnswer; split_ifs <;> rfl

@[simp] theorem awaiting_takeAnswer (type : DataType) :
    (c.takeAnswer type).1.read.awaiting = c.read.awaiting := by
  unfold takeAnswer; split_ifs <;> rfl

@[simp] theorem ticket_takeAnswer (type : DataType) :
    (c.takeAnswer type).1.read.ticket = c.read.ticket := by
  unfold takeAnswer; split_ifs <;> rfl

@[simp] theorem position_takeAnswer (type : DataType) :
    (c.takeAnswer type).1.position = c.position := by
  unfold takeAnswer; split_ifs <;> rfl

end RunControl.Control
