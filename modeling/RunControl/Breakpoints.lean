import RunControl.Memory

/-!
# Breakpoints

`DebugMode` says where a run may pause. `Breakpoints` holds the active lines of a program;
`activate` replaces them and ignores lines outside the program. `ascending` puts lines in order.
-/

namespace RunControl

/-- How a run decides where it may pause: nowhere if `stopped`, on lines with an active breakpoint,
or everywhere when it steps. -/
inductive DebugMode
  | stopped
  | breakpoint
  | stepOver
  | stepInto
deriving DecidableEq

def DebugMode.name : DebugMode → String
  | stopped => "stopped"
  | breakpoint => "breakpoint"
  | stepOver => "step-over"
  | stepInto => "step-into"

def DebugMode.all : List DebugMode := [stopped, breakpoint, stepOver, stepInto]

/-- Leave out every line that stands right before itself. -/
def distinct (lines : List UInt32) : List UInt32 :=
  lines.foldr (fun line kept => if kept.head? = some line then kept else line :: kept) []

theorem distinct_cons (line : UInt32) (lines : List UInt32) :
    distinct (line :: lines) =
      if (distinct lines).head? = some line then distinct lines else line :: distinct lines := rfl

theorem mem_distinct {line : UInt32} {lines : List UInt32} :
    line ∈ distinct lines ↔ line ∈ lines := by
  induction lines with
  | nil => rfl
  | cons first rest ih =>
    rw [distinct_cons]
    split
    · next h =>
      have hd : first ∈ distinct rest := List.mem_of_mem_head? h
      by_cases hl : line = first <;> simp_all
    · simp [ih]

theorem pairwise_distinct {lines : List UInt32} (h : lines.Pairwise (· ≤ ·)) :
    (distinct lines).Pairwise (· < ·) := by
  induction lines with
  | nil => exact List.Pairwise.nil
  | cons first rest ih =>
    obtain ⟨hle, hrest⟩ := List.pairwise_cons.1 h
    rw [distinct_cons]
    split
    · exact ih hrest
    · next hne =>
      refine List.pairwise_cons.2 ⟨fun line hmem => ?_, ih hrest⟩
      have := ih hrest
      cases hd : distinct rest with
      | nil => simp [hd] at hmem
      | cons second others =>
        have h1 : first ≤ second := hle second (mem_distinct.1 (hd ▸ List.mem_cons_self))
        have h2 : first < second := UInt32.lt_of_le_of_ne h1 fun he => hne (by simp [hd, he])
        rw [hd] at hmem this
        rcases List.mem_cons.1 hmem with rfl | hmem
        · exact h2
        · exact UInt32.lt_trans h2 ((List.pairwise_cons.1 this).1 line hmem)

/-- The lines in ascending order, each once. -/
def ascending (lines : List UInt32) : List UInt32 :=
  distinct (lines.mergeSort fun a b => a ≤ b)

theorem mem_ascending {line : UInt32} {lines : List UInt32} :
    line ∈ ascending lines ↔ line ∈ lines := by
  rw [ascending, mem_distinct, List.mem_mergeSort]

theorem pairwise_ascending (lines : List UInt32) : (ascending lines).Pairwise (· < ·) := by
  have h := @List.pairwise_mergeSort UInt32 (fun a b => decide (a ≤ b))
    (fun a b c hab hbc => decide_eq_true
      (UInt32.le_trans (of_decide_eq_true hab) (of_decide_eq_true hbc)))
    (fun a b => by simpa using UInt32.le_total a b) lines
  exact pairwise_distinct (h.imp fun hab => of_decide_eq_true hab)

/-- The active breakpoints of a program: so many lines, from line 0 on, and those that are active,
ascending. -/
structure Breakpoints where
  lineCount : Nat
  activeLines : List UInt32
deriving DecidableEq

namespace Breakpoints

/-- No active line, in a program of `count` lines. -/
def none (count : Nat) : Breakpoints := ⟨count, []⟩

/-- There is no room for so many lines, a byte each. -/
def isOversized (count : Nat) : Bool := Memory.isOversized count 1

def clear (b : Breakpoints) : Breakpoints := none b.lineCount

/-- Make exactly these lines active, as far as the program has them. -/
def activate (b : Breakpoints) (lines : List UInt32) : Breakpoints :=
  { b with activeLines := ascending (lines.filter fun line => line.toNat < b.lineCount) }

/-- The line has an active breakpoint. -/
def isActive (b : Breakpoints) (line : UInt32) : Bool := b.activeLines.contains line

def isEmpty (b : Breakpoints) : Bool := b.activeLines.isEmpty

/-- A run in the mode `mode` pauses at the line. -/
def shouldPause (b : Breakpoints) (mode : DebugMode) (line : UInt32) : Bool :=
  match mode with
  | .stepOver | .stepInto => true
  | .breakpoint => b.isActive line
  | .stopped => false

end Breakpoints

end RunControl
