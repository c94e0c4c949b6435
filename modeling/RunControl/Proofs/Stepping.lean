import Mathlib.Tactic.Common
import RunControl.System.Step

/-!
# Steps, kind by kind

`System.step` as one equation for each kind of step. All the steps that a worker takes are one
kind: `System.turn` is what the label does with the task of the worker, which must be free.

* `System.step_act`, `System.step_complete`, `System.step_wakeUp`, and the converses
  `System.act_of_step`, `System.complete_of_step`, `System.wake_of_step`;
* **`System.step_turn`**, `System.turn_of_step`: the steps of a worker.
-/

namespace RunControl

variable {κ : Type}

/-- The run whose worker takes a turn. -/
def Label.worker? : Label κ → Option RunId
  | .advance run _ | .call run _ | .returned run | .libraryFailed run _ | .sinkFailed run _
  | .panicked run _ | .caught run _ => some run
  | _ => none

namespace System

variable {setup : Setup κ} {s s' : System κ} {l : Label κ} {run : RunId} {p p' : Point κ}

/-! ## Where a worker goes -/

theorem tasks_goto {s : System κ} {run : RunId} {t : Task κ} (h : s.tasks[run]? = some t)
    (p : Point κ) : (s.goto run p).tasks = s.tasks.set run { t with point := p } := by
  refine List.ext_getElem? fun i => ?_
  rw [goto, List.getElem?_modify, List.getElem?_set]
  have hlt : run < s.tasks.length := (List.getElem?_eq_some_iff.1 h).1
  split_ifs with hi
  · subst hi
    simp [h]
  · simp

theorem point?_eq_some_iff : s.point? run = some p ↔ ∃ t, s.tasks[run]? = some t ∧ t.point = p := by
  simp [point?]

theorem point?_goto (h : s.point? run = some p) : (s.goto run p').point? run = some p' := by
  obtain ⟨t, ht, -⟩ := point?_eq_some_iff.1 h
  simp [goto, point?, ht]

theorem goto_goto : (s.goto run p).goto run p' = s.goto run p' := by
  simp [goto, List.modify_modify_eq, Function.comp_def]

theorem goto_point {t : Task κ} (h : s.tasks[run]? = some t) : s.goto run t.point = s := by
  have ht : (s.goto run t.point).tasks = s.tasks := by
    obtain ⟨hlt, hget⟩ := List.getElem?_eq_some_iff.1 h
    rw [tasks_goto h, ← hget]
    exact List.set_getElem_self hlt
  exact congrArg (fun tasks => { s with tasks }) ht

theorem freeTask?_eq_some_iff {t : Task κ} :
    s.freeTask? run = some t ↔ s.isBusy (.worker run) = false ∧ s.tasks[run]? = some t := by
  unfold freeTask?
  split_ifs with h <;> simp [h]

/-! ## The kinds of steps -/

/-- What a step of a worker does, given the task of the worker. -/
def turn (setup : Setup κ) (s : System κ) (task : Task κ) : Label κ → Option (System κ)
  | .advance run elapsed => s.advance setup run task.args elapsed task.point
  | .call run c => match task.point with
    | .body _ => some (s.call setup run c)
    | _ => none
  | .returned run => s.returned run task.point
  | .libraryFailed run error => s.libraryFailed setup run error task.point
  | .sinkFailed run error => s.sinkFailed run error task.point
  | .panicked run payload => s.panicked setup run payload task.point
  | .caught run state => s.caught run state task.point
  | _ => none

theorem step_of_aborted (h : s.aborted = true) (l : Label κ) : s.step setup l = none := by
  simp [step, h]

theorem aborted_of_step (h : s.step setup l = some s') : s.aborted = false := by
  by_contra ha
  rw [step_of_aborted (by simpa using ha)] at h
  cases h

theorem step_eq_map {f : System κ} {l' : Label κ} {g : System κ → System κ}
    (ha : f.aborted = s.aborted)
    (h : s.aborted = false → f.aborted = false → f.step setup l' = (s.step setup l).map g) :
    f.step setup l' = (s.step setup l).map g := by
  cases haborted : s.aborted with
  | true =>
    rw [step_of_aborted haborted, step_of_aborted (ha.trans haborted)]
    rfl
  | false => exact h haborted (ha.trans haborted)

theorem step_act (h : s.aborted = false) (t : Thread) (a : Action) :
    s.step setup (.act t a) = if s.mayAct t then some (s.act t a) else none := by
  simp [step, h]

theorem step_complete (h : s.aborted = false) (t : Thread) :
    s.step setup (.complete t) = s.complete t := by
  simp [step, h]

theorem step_wakeUp (h : s.aborted = false) (run : RunId) :
    s.step setup (.wake run) = (s.tasks[run]?).bind fun task =>
      if task.point.isAsleep then some (s.goto run task.point.wake) else none := by
  simp [step, h]

theorem act_of_step {t : Thread} {a : Action} (h : s.step setup (.act t a) = some s') :
    s.mayAct t = true ∧ s' = s.act t a := by
  rw [step_act (aborted_of_step h)] at h
  simp only [Option.ite_none_right_eq_some, Option.some.injEq] at h
  exact ⟨h.1, h.2.symm⟩

theorem complete_of_step {t : Thread} (h : s.step setup (.complete t) = some s') :
    ∃ owed, (t, owed) ∈ s.inFlight ∧
      s' = { s with inFlight := s.inFlight.filter fun p => p.1 ≠ t }.finishCall owed := by
  rw [step_complete (aborted_of_step h)] at h
  obtain ⟨⟨u, owed⟩, hfind, he⟩ := Option.map_eq_some_iff.1 h
  obtain rfl : u = t := by simpa using List.find?_some hfind
  exact ⟨owed, List.mem_of_find?_eq_some hfind, he.symm⟩

theorem wake_of_step {run : RunId} (h : s.step setup (.wake run) = some s') :
    ∃ task, s.tasks[run]? = some task ∧ task.point.isAsleep = true ∧
      s' = s.goto run task.point.wake := by
  rw [step_wakeUp (aborted_of_step h)] at h
  obtain ⟨task, htask, h⟩ := Option.bind_eq_some_iff.1 h
  simp only [Option.ite_none_right_eq_some, Option.some.injEq] at h
  exact ⟨task, htask, h.1, h.2.symm⟩

/-- **A step of a worker is what its label does with the task of the worker.** -/
theorem step_turn (hl : l.worker? = some run) (h : s.aborted = false) :
    s.step setup l = (s.freeTask? run).bind fun task => s.turn setup task l := by
  cases l with
  | act t a | complete t | wake r => cases hl
  | advance r elapsed | call r c | returned r | libraryFailed r error | sinkFailed r error
  | panicked r payload | caught r state =>
    obtain rfl := Option.some.inj hl
    rw [step, if_neg (by simp [h])]
    rfl

/-- A step of a worker is a turn of its task. -/
theorem turn_of_step (hl : l.worker? = some run) (h : s.step setup l = some s') :
    ∃ task, s.point? run = some task.point ∧ s.turn setup task l = some s' := by
  rw [step_turn hl (aborted_of_step h)] at h
  obtain ⟨task, htask, hturn⟩ := Option.bind_eq_some_iff.1 h
  exact ⟨task, point?_eq_some_iff.2 ⟨task, (freeTask?_eq_some_iff.1 htask).2, rfl⟩, hturn⟩

theorem steps_append (labels labels' : List (Label κ)) :
    s.steps setup (labels ++ labels') =
      (s.steps setup labels).bind fun s' => s'.steps setup labels' := by
  induction labels generalizing s with
  | nil => rfl
  | cons l labels ih =>
    rw [List.cons_append, steps, steps, Option.bind_assoc]
    exact Option.bind_congr fun s₁ _ => ih

/-! ## Calls in flight -/

variable {inFlight : List (Thread × Pending)}

theorem advance_inFlight {args : List String} {elapsed : Nat} (q : Point κ) :
    ({ s with inFlight } : System κ).advance setup run args elapsed q =
      (s.advance setup run args elapsed q).map fun s' => { s' with inFlight } := by
  cases q with
  | telling notice queue after => cases queue <;> rfl
  | initializing left | finalizing left outcome | ending result left => cases left <;> rfl
  | holding hold =>
    simp only [advance]
    split_ifs <;> rfl
  | checking ask | awaiting ask =>
    simp only [advance]
    split_ifs <;> rfl
  | classifying outcome =>
    simp only [advance]
    split <;> rfl
  | _ => rfl

theorem call_inFlight (c : Call κ) :
    ({ s with inFlight } : System κ).call setup run c =
      { s.call setup run c with inFlight } := by
  cases c with
  | read type next =>
    simp only [call]
    split <;> rfl
  | _ => rfl

theorem turn_inFlight {task : Task κ} :
    ({ s with inFlight } : System κ).turn setup task l =
      (s.turn setup task l).map fun s' => { s' with inFlight } := by
  obtain ⟨args, q⟩ := task
  cases l with
  | advance run elapsed => exact advance_inFlight q
  | call run c =>
    cases q with
    | body state => exact congrArg some (call_inFlight c)
    | _ => rfl
  | panicked run payload =>
    cases q with
    | telling notice queue after =>
      cases queue with
      | nil => rfl
      | cons o queue =>
        cases after with
        | leaveRead exit => cases exit <;> rfl
        | _ => rfl
    | initializing left | finalizing left outcome | ending result left => cases left <;> rfl
    | _ => rfl
  | returned run =>
    cases q with
    | telling notice queue after => cases queue <;> rfl
    | initializing left | finalizing left outcome | ending result left => cases left <;> rfl
    | _ => rfl
  | libraryFailed run error =>
    cases q with
    | initializing left | finalizing left outcome => cases left <;> rfl
    | _ => rfl
  | sinkFailed run error => cases q <;> rfl
  | caught run state => cases q <;> rfl
  | _ => rfl

end System

end RunControl
