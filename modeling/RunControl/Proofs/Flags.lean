import Mathlib.Data.List.Induction
import Mathlib.Data.List.Sort
import Mathlib.Data.Set.Basic
import RunControl.Breakpoints

/-!
# Breakpoints as a set and as flags

Whatever the calls were, the table of breakpoints shows one set of lines: those of the last
activation that the program has. The same set is kept by a row of flags, one for each line of the
program, that are all lowered by a call and raised one by one.

* `Wanted`: the set that a row of calls asks for;
* `Shows.after`: the table shows this set in every way;
* `Flags.Follows.change`: flags and table stay in step, call by call;
* `Flags.Follows.indices_eq`: the raised flags stand at the active lines, so to take the place of a
  flag as a number of 32 bits changes no line;
* **`tabulated`**: both together, after any calls.
-/

namespace RunControl

/-- A call that changes which lines are active. -/
inductive Breakpoints.Change
  | activate (lines : List UInt32)
  | clear

/-! ## Flags -/

namespace Flags

open Breakpoints (Change)

/-- Lower all flags. -/
def clear (flags : List Bool) : List Bool := flags.map fun _ => false

/-- Raise the flag of a line, if it has one. -/
def raise (flags : List Bool) (line : UInt32) : List Bool := flags.set line.toNat true

/-- Lower all flags, and raise those of the lines one after the other. -/
def activate (flags : List Bool) (lines : List UInt32) : List Bool :=
  lines.foldl raise (clear flags)

/-- The flags after one call. -/
def change (flags : List Bool) : Change → List Bool
  | .activate lines => activate flags lines
  | .clear => clear flags

/-- The line has a flag, and it is raised. -/
def isActive (flags : List Bool) (line : UInt32) : Bool := flags[line.toNat]?.getD false

/-- The places of the raised flags. -/
def indices (flags : List Bool) : List ℕ := (flags.zipIdx.filter fun f => f.1).map fun f => f.2

variable {flags : List Bool} {lines : List UInt32} {line : UInt32} {i : ℕ}

@[simp] theorem length_clear : (clear flags).length = flags.length := List.length_map _

@[simp] theorem length_raise : (raise flags line).length = flags.length := List.length_set

theorem length_foldl_raise : (lines.foldl raise flags).length = flags.length := by
  induction lines generalizing flags with
  | nil => rfl
  | cons line rest ih => rw [List.foldl_cons, ih, length_raise]

theorem getElem?_clear_ne : (clear flags)[i]? ≠ some true := by
  rw [clear, List.getElem?_map]
  cases flags[i]? <;> simp

theorem getElem?_raise_iff : (raise flags line)[i]? = some true ↔
    flags[i]? = some true ∨ i < flags.length ∧ line.toNat = i := by
  rw [raise, List.getElem?_set]
  by_cases hi : line.toNat = i
  · subst hi
    by_cases hlt : line.toNat < flags.length
    · simp [hlt]
    · simp [hlt]
  · simp [hi]

/-- A flag is raised afterwards if it was before, or if its line is among those. -/
theorem getElem?_foldl_raise_iff : (lines.foldl raise flags)[i]? = some true ↔
    flags[i]? = some true ∨ i < flags.length ∧ ∃ line ∈ lines, line.toNat = i := by
  induction lines generalizing flags with
  | nil => simp
  | cons line rest ih =>
    simp only [List.foldl_cons, ih, getElem?_raise_iff, length_raise, List.mem_cons, or_and_right,
      exists_or, exists_eq_left]
    rw [or_assoc, ← and_or_left]

theorem mem_indices : i ∈ indices flags ↔ flags[i]? = some true := by
  simp only [indices, List.mem_map, List.mem_filter, Prod.exists, exists_eq_right,
    List.mk_mem_zipIdx_iff_getElem?]

theorem pairwise_indices (flags : List Bool) : (indices flags).Pairwise (· < ·) := by
  have hsub : (indices flags).Sublist (flags.zipIdx.map fun f => f.2) := List.filter_sublist.map _
  refine List.Pairwise.sublist hsub ?_
  rw [show (fun f : Bool × ℕ => f.2) = Prod.snd from rfl, List.zipIdx_map_snd]
  exact List.pairwise_lt_range'

end Flags

namespace Breakpoints

/-! ## The set -/

/-- The table after one call. -/
def change (b : Breakpoints) : Change → Breakpoints
  | .activate lines => b.activate lines
  | .clear => b.clear

/-- The lines that a row of calls asks for: the last call activates them, and the program has
them. -/
def Wanted (count : ℕ) (changes : List Change) : Set UInt32 :=
  {line | line.toNat < count ∧
    ∃ before lines, changes = before ++ [.activate lines] ∧ line ∈ lines}

/-- The table shows the set in every way. To activate what is active changes nothing, and what
counts of an activation is which lines of the program it names. -/
structure Shows (b : Breakpoints) (count : ℕ) (wanted : Set UInt32) : Prop where
  lineCount : b.lineCount = count
  mem_activeLines : ∀ line, line ∈ b.activeLines ↔ line ∈ wanted
  ascending : b.activeLines.Pairwise (· < ·)
  isActive : ∀ line, b.isActive line = true ↔ line ∈ wanted
  shouldPause : ∀ line, b.shouldPause .breakpoint line = true ↔ line ∈ wanted
  isEmpty : b.isEmpty = true ↔ wanted = ∅
  activate_activeLines : b.activate b.activeLines = b
  activate_congr : ∀ lines lines' : List UInt32,
    (∀ line, line.toNat < count → (line ∈ lines ↔ line ∈ lines')) →
      b.activate lines = b.activate lines'

variable {b : Breakpoints} {count : ℕ} {changes : List Change} {lines lines' : List UInt32}
  {line : UInt32} {wanted : Set UInt32}

theorem mem_activate : line ∈ (b.activate lines).activeLines ↔
    line.toNat < b.lineCount ∧ line ∈ lines := by
  simp only [activate, mem_ascending, List.mem_filter, decide_eq_true_eq, and_comm]

theorem pairwise_activate (b : Breakpoints) (lines : List UInt32) :
    (b.activate lines).activeLines.Pairwise (· < ·) := pairwise_ascending _

theorem activate_eq {b' : Breakpoints} (hcount : b'.lineCount = b.lineCount)
    (hsorted : b'.activeLines.Pairwise (· < ·))
    (hmem : ∀ line, line ∈ b'.activeLines ↔ line.toNat < b.lineCount ∧ line ∈ lines) :
    b.activate lines = b' := by
  -- both tables list their lines in ascending order, so only the members count
  have hactive : (b.activate lines).activeLines = b'.activeLines :=
    (pairwise_activate b lines).eq_of_mem_iff hsorted fun line =>
      mem_activate.trans (hmem line).symm
  cases b'
  exact congrArg₂ Breakpoints.mk hcount.symm hactive

theorem activate_congr (h : ∀ line, line.toNat < b.lineCount → (line ∈ lines ↔ line ∈ lines')) :
    b.activate lines = b.activate lines' := by
  refine activate_eq rfl (pairwise_activate b lines') fun line => ?_
  rw [mem_activate]
  exact and_congr_right fun hlt => (h line hlt).symm

theorem Shows.of_mem (hcount : b.lineCount = count)
    (hmem : ∀ line, line ∈ b.activeLines ↔ line ∈ wanted) (hsorted : b.activeLines.Pairwise (· < ·))
    (hinside : ∀ line ∈ wanted, line.toNat < count) : Shows b count wanted where
  lineCount := hcount
  mem_activeLines := hmem
  ascending := hsorted
  isActive line := List.contains_iff_mem.trans (hmem line)
  shouldPause line := List.contains_iff_mem.trans (hmem line)
  isEmpty := by
    rw [Breakpoints.isEmpty, List.isEmpty_iff, List.eq_nil_iff_forall_not_mem,
      Set.eq_empty_iff_forall_notMem]
    exact forall_congr' fun line => not_congr (hmem line)
  activate_activeLines := by
    refine activate_eq rfl hsorted fun line => ?_
    rw [hcount, hmem]
    exact (and_iff_right_of_imp (hinside line)).symm
  activate_congr lines lines' h := Breakpoints.activate_congr (hcount ▸ h)

theorem mem_wanted_concat {c : Change} : line ∈ Wanted count (changes ++ [c]) ↔
    line.toNat < count ∧ ∃ lines, c = .activate lines ∧ line ∈ lines := by
  refine and_congr_right fun _ => ?_
  constructor
  · rintro ⟨before, lines, heq, hmem⟩
    obtain ⟨-, hlast⟩ := List.append_inj' heq rfl
    exact ⟨lines, List.head_eq_of_cons_eq hlast, hmem⟩
  · rintro ⟨lines, rfl, hmem⟩
    exact ⟨changes, lines, rfl, hmem⟩

/-- **The table shows what the calls ask for.** -/
theorem Shows.after (count : ℕ) (changes : List Change) :
    Shows (changes.foldl change (none count)) count (Wanted count changes) := by
  -- the last call decides, whatever the calls before it were
  induction changes using List.reverseRecOn with
  | nil =>
    refine .of_mem rfl (fun line => iff_of_false List.not_mem_nil ?_) .nil fun _ h => h.1
    rintro ⟨-, before, lines, heq, -⟩
    simp at heq
  | append_singleton changes c ih =>
    rw [List.foldl_append, List.foldl_cons, List.foldl_nil]
    cases c with
    | activate lines =>
      refine .of_mem ih.lineCount (fun line => ?_) (pairwise_activate _ _) fun _ h => h.1
      rw [mem_wanted_concat, change, mem_activate, ih.lineCount]
      simp
    | clear =>
      refine .of_mem ih.lineCount (fun line => iff_of_false List.not_mem_nil ?_) .nil fun _ h => h.1
      rw [mem_wanted_concat]
      rintro ⟨-, lines, ⟨⟩, -⟩

end Breakpoints

/-! ## Flags and table -/

namespace Flags

open Breakpoints (Change)

/-- The flags are those of the lines of the table's program, and the active lines have theirs
raised. -/
structure Follows (flags : List Bool) (b : Breakpoints) : Prop where
  length : flags.length = b.lineCount
  raised_iff : ∀ i, flags[i]? = some true ↔ ∃ line ∈ b.activeLines, line.toNat = i

/-- The flags answer as the table does. -/
structure Agrees (flags : List Bool) (b : Breakpoints) : Prop where
  length : flags.length = b.lineCount
  isActive : ∀ line, isActive flags line = b.isActive line
  isEmpty : (!flags.any id) = b.isEmpty
  indices : indices flags = b.activeLines.map UInt32.toNat
  activeLines : (Flags.indices flags).map UInt32.ofNat = b.activeLines

variable {flags : List Bool} {b : Breakpoints} {lines : List UInt32}

theorem Follows.none (count : ℕ) : Follows (List.replicate count false) (.none count) where
  length := List.length_replicate
  raised_iff i := by simp [Breakpoints.none, List.getElem?_replicate]

theorem Follows.clear (h : Follows flags b) : Follows (clear flags) b.clear where
  length := length_clear.trans h.length
  raised_iff i := iff_of_false getElem?_clear_ne (by simp [Breakpoints.clear, Breakpoints.none])

theorem Follows.activate (h : Follows flags b) (lines : List UInt32) :
    Follows (activate flags lines) (b.activate lines) where
  length := length_foldl_raise.trans (length_clear.trans h.length)
  raised_iff i := by
    rw [Flags.activate, getElem?_foldl_raise_iff, or_iff_right getElem?_clear_ne, length_clear,
      h.length]
    simp only [Breakpoints.mem_activate]
    constructor
    · rintro ⟨hlt, line, hmem, rfl⟩
      exact ⟨line, ⟨hlt, hmem⟩, rfl⟩
    · rintro ⟨line, ⟨hlt, hmem⟩, rfl⟩
      exact ⟨hlt, line, hmem, rfl⟩

/-- Flags and table stay in step. -/
theorem Follows.change (h : Follows flags b) (c : Change) :
    Follows (change flags c) (b.change c) := by
  cases c with
  | activate lines => exact h.activate lines
  | clear => exact h.clear

theorem Follows.foldl (h : Follows flags b) (changes : List Change) :
    Follows (changes.foldl Flags.change flags) (changes.foldl Breakpoints.change b) := by
  induction changes generalizing flags b with
  | nil => exact h
  | cons c rest ih => exact ih (h.change c)

/-- The raised flags stand at the active lines. -/
theorem Follows.indices_eq (h : Follows flags b) (hsorted : b.activeLines.Pairwise (· < ·)) :
    indices flags = b.activeLines.map UInt32.toNat := by
  have hlines : (b.activeLines.map UInt32.toNat).Pairwise (· < ·) :=
    List.pairwise_map.2 (hsorted.imp UInt32.lt_iff_toNat_lt.1)
  -- both are ascending, and have the same members since the flags follow the table
  refine (pairwise_indices flags).eq_of_mem_iff hlines fun i => ?_
  rw [mem_indices, h.raised_iff, List.mem_map]

theorem Follows.isActive_eq (h : Follows flags b) (line : UInt32) :
    isActive flags line = b.isActive line := by
  have hraised : isActive flags line = true ↔ flags[line.toNat]? = some true := by
    rw [isActive]
    cases flags[line.toNat]? <;> simp
  rw [Bool.eq_iff_iff, hraised, h.raised_iff, Breakpoints.isActive, List.contains_iff_mem]
  constructor
  · rintro ⟨line', hmem, heq⟩
    rwa [← UInt32.toNat_inj.1 heq]
  · intro hmem
    exact ⟨line, hmem, rfl⟩

theorem Follows.isEmpty_eq (h : Follows flags b) : (!flags.any id) = b.isEmpty := by
  rw [Bool.eq_iff_iff, Bool.not_eq_true', List.any_eq_false, Breakpoints.isEmpty, List.isEmpty_iff,
    List.eq_nil_iff_forall_not_mem]
  constructor
  · intro hlow line hmem
    have hraised := (h.raised_iff line.toNat).2 ⟨line, hmem, rfl⟩
    exact hlow true (List.mem_of_getElem? hraised) rfl
  · intro hnone f hmem hf
    obtain ⟨i, hi⟩ := List.mem_iff_getElem?.1 hmem
    rw [show f = true from hf] at hi
    obtain ⟨line, hline, -⟩ := (h.raised_iff i).1 hi
    exact hnone line hline

theorem Follows.agrees (h : Follows flags b) (hsorted : b.activeLines.Pairwise (· < ·)) :
    Agrees flags b where
  length := h.length
  isActive := h.isActive_eq
  isEmpty := h.isEmpty_eq
  indices := h.indices_eq hsorted
  activeLines := by
    rw [h.indices_eq hsorted, List.map_map]
    exact (List.map_congr_left fun _ _ => UInt32.ofNat_toNat).trans (List.map_id _)

end Flags

/-- **Breakpoints are a set of lines.** After any calls the table shows the lines of the last
activation that the program has, and agrees with a row of flags that has followed the same calls. -/
theorem Breakpoints.tabulated (count : ℕ) (changes : List Change) :
    Shows (changes.foldl change (none count)) count (Wanted count changes) ∧
      Flags.Agrees (changes.foldl Flags.change (List.replicate count false))
        (changes.foldl change (none count)) := by
  have hshows := Shows.after count changes
  exact ⟨hshows, ((Flags.Follows.none count).foldl changes).agrees hshows.ascending⟩

/-- A line outside the program, one that is named twice and the calls before do not count. -/
example : ([.activate [1], .activate [7, 3, 3, 9]].foldl Breakpoints.change
    (Breakpoints.none 8)).activeLines = [3, 7] := by cbv

end RunControl
