import RunControl.Proofs.Orderly

/-!
# Within a pause or a read

From the call of the body to its return the worker makes no other call. While it is within the
pause or the read, its run is alive, so no start is accepted, and the flag of an interrupt tells
whether one was accepted since the call or before it.

* `System.step_call`: a call of the body;
* **`Trail.within`**: a worker that is within a pause or a read has been since the call;
* **`Trail.undecided`**: the pause or the read is the one that the call began;
* **`Trail.interrupted_eq_any`**: the flag of an interrupt, while no start is accepted.
-/

namespace RunControl

variable {κ : Type} {setup : Setup κ} {s s₀ s' : System κ} {m p : List (Moment κ)} {l : Label κ}
  {run : RunId} {f : Phase κ}

/-- Neither a resume nor an interrupt is accepted. -/
def Moment.isQuiet (x : Moment κ) : Bool := !x.resumes && !x.interrupts

theorem all_isQuiet_iff : m.all Moment.isQuiet = true ↔
    m.any Moment.resumes = false ∧ m.any Moment.interrupts = false := by
  simp only [List.all_eq_true, List.any_eq_false, Moment.isQuiet, Bool.and_eq_true,
    Bool.not_eq_true', Bool.not_eq_true, forall_and]

theorem Moment.ne_call (h : (Moment.mk s l).isCall run = false) (c : Call κ) :
    l ≠ .call run c := by
  rintro rfl
  simp [isCall] at h

theorem Moment.starts_of_alive (h : s.control.alive = true) : (Moment.mk s l).starts = false := by
  cases l with
  | act t a => cases a <;> simp [starts, Control.start, h]
  | _ => rfl

/-- The body makes a call only while it runs. -/
theorem System.step_call {c : Call κ} (h : s.step setup (.call run c) = some s') :
    ∃ state, s.point? run = some (.body state) ∧ s' = s.call setup run c := by
  obtain ⟨⟨args, q⟩, hq, hturn⟩ := System.turn_of_step rfl h
  cases q with
  | body state => exact ⟨state, hq, (Option.some.inj hturn).symm⟩
  | _ => cases hturn

/-! ## Without a call -/

section Step

variable {c c' : Control} {hs hs' : List UInt64} {q q' : Point κ}

theorem Phase.Moves.isWithin_of {f' : Phase κ} (h : f.Moves run l f') (hf : f'.isWithin = true) :
    f.isWithin = true := by
  cases h <;> first | exact hf | cases hf

theorem Turn.isWithin_of (h : Turn run l c hs q c' hs' q') (hl : ∀ c, l ≠ .call run c)
    (hq : q'.phase.isWithin = true) : q.phase.isWithin = true := by
  cases h with
  | pass hp => exact hp.moves.isWithin_of hq
  | report | pause | openRead => exact absurd rfl (hl _)
  | park => rwa [Point.phase_sleep] at hq
  | take hp => rcases hp with rfl | rfl <;> rfl
  | unwind hp => rw [hp]; rfl
  | finish => cases hq
  | _ => rfl

theorem Turn.isUndecided_of (h : Turn run l c hs q c' hs' q') (hl : ∀ c, l ≠ .call run c)
    (hq : q'.phase.isUndecided = true) : q.phase = q'.phase := by
  cases h with
  | pass hp =>
    have hmoves := hp.moves
    generalize q.phase = f, q'.phase = f' at hmoves hq
    cases hmoves <;> first | rfl | cases hq
  | report | pause | openRead => exact absurd rfl (hl _)
  | park => rw [Point.phase_sleep]
  | request => rfl
  | @close _ _ exit => cases exit <;> cases hq
  | _ => cases hq

end Step

/-- A worker comes to be within a pause or a read only by a call of its body. -/
theorem within_of_step (h : s.step setup l = some s')
    (hl : (Moment.mk s l).isCall run = false) (hf : s'.phase? run = some f)
    (hw : f.isWithin = true) : ∃ g, s.phase? run = some g ∧ g.isWithin = true := by
  by_cases hr : l.worker? = some run
  · obtain ⟨t, q, ht⟩ := System.turned_of_step hr h
    obtain ⟨h1, h2⟩ := ht.phase?
    obtain rfl : q.phase = f := Option.some.inj (h2.symm.trans hf)
    exact ⟨_, h1, ht.turn.isWithin_of (Moment.ne_call hl) hw⟩
  · obtain he | ⟨-, -, hbusy⟩ := (System.stepped_of_step h).phase?_eq hr
    · exact ⟨f, he ▸ hf, hw⟩
    · obtain rfl : Phase.busy = f := Option.some.inj (hbusy.symm.trans hf)
      cases hw

/-- **A worker that is within a pause or a read has been since the last call of its body, and no
start has been accepted.** -/
theorem Trail.within (hm : Trail setup s₀ m s) (hr : Reachable setup s₀)
    (hcall : m.any (Moment.isCall run) = false) (hf : s.phase? run = some f)
    (hw : f.isWithin = true) :
    m.countP Moment.starts = 0 ∧ ∃ g, s₀.phase? run = some g ∧ g.isWithin = true := by
  induction hm generalizing f with
  | nil => exact ⟨rfl, f, hf, hw⟩
  | @cons m s s' l hm hs ih =>
    rw [List.any_cons, Bool.or_eq_false_iff] at hcall
    obtain ⟨g, hg, hgw⟩ := within_of_step hs hcall.1 hf hw
    obtain ⟨hzero, hfirst⟩ := ih hcall.2 hg hgw
    have halive : s.control.alive = true :=
      (hm.reachable_append hr).orderly.alive_of_phase hg (Phase.isOver_eq_false_of_isWithin hgw)
    refine ⟨?_, hfirst⟩
    rw [List.countP_cons, hzero, Moment.starts_of_alive halive]
    rfl

/-- A worker comes to be in a pause, or in a read whose answer has not been taken, only by a call of
its body. -/
theorem undecided_of_step (h : s.step setup l = some s') (hl : (Moment.mk s l).isCall run = false)
    (hf : s'.phase? run = some f) (hu : f.isUndecided = true) : s.phase? run = some f := by
  by_cases hr : l.worker? = some run
  · obtain ⟨t, q, ht⟩ := System.turned_of_step hr h
    obtain ⟨h1, h2⟩ := ht.phase?
    obtain rfl : q.phase = f := Option.some.inj (h2.symm.trans hf)
    rw [h1, ht.turn.isUndecided_of (Moment.ne_call hl) hu]
  · obtain he | ⟨-, -, hbusy⟩ := (System.stepped_of_step h).phase?_eq hr
    · rw [← he, hf]
    · obtain rfl : Phase.busy = f := Option.some.inj (hbusy.symm.trans hf)
      cases hu

/-- **A pause or a read is the one that the last call of the body began.** -/
theorem Trail.undecided (hm : Trail setup s₀ m s) (hcall : m.any (Moment.isCall run) = false)
    (hf : s.phase? run = some f) (hu : f.isUndecided = true) : s₀.phase? run = some f := by
  induction hm with
  | nil => exact hf
  | cons _ hs ih =>
    rw [List.any_cons, Bool.or_eq_false_iff] at hcall
    exact ih hcall.2 (undecided_of_step hs hcall.1 hf hu)

/-! ## Interrupts -/

/-- **While no start is accepted, the flag of an interrupt is up when it was before or an interrupt
has been accepted.** -/
theorem Trail.interrupted_eq_any (hm : Trail setup s₀ m s) (h : m.countP Moment.starts = 0) :
    s.control.interrupted = (s₀.control.interrupted || m.any Moment.interrupts) := by
  induction hm with
  | nil => simp
  | @cons m s s' l _ hs ih =>
    rw [List.countP_cons, Nat.add_eq_zero_iff] at h
    have hstart : (Moment.mk s l).starts = false := by simpa using h.2
    rw [interrupted_of_step hs, hstart, ih h.1, List.any_cons, Bool.or_assoc]
    simp only [Bool.not_false, Bool.true_and, Bool.or_comm]

/-- While a run is alive, the flag of an interrupt tells whether one was accepted in the run. -/
theorem Trail.interrupted_of_phase {directory : String}
    (hp : Trail setup (System.initial setup directory) p s) (hf : s.phase? run = some f)
    (halive : f.isOver = false) :
    s.control.interrupted = (during run p).any Moment.interrupts :=
  hp.interrupted_eq (hp.starts_of_phase hf halive)

end RunControl
