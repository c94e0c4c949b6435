import RunControl.Proofs.Pause
import RunControl.Proofs.ReadWindow
import RunControl.Proofs.Wakeup

/-!
# Interrupts stay, and stay in their run

Any thread may raise the flag of an interrupt at any moment. The worker looks at it wherever it may
have to wait; a run that ends leaves it up, and only the next start lowers it.

* `Stopped`, **`Trail.stopped`**: what an accepted interrupt comes to until the next start;
* **`Orderly.steps_flagged`**: the next start forgets the flag that a run has left behind;
* `System.without`, `steps_without`, `Orderly.steps_wake`: a notification that comes late is nothing
  but a wake-up for no reason;
* **`Trail.interruption`**: both, in every run.
-/

namespace RunControl

variable {κ : Type} {setup : Setup κ} {s s₀ s₁ s₂ s' : System κ} {m p : List (Moment κ)}
  {l : Label κ} {run : RunId} {hold : Hold κ} {ask : Ask κ} {t : Thread}

/-! ## The flag is up -/

section Flag

theorem Control.isRunning_of_interrupted {c : Control} (h : c.interrupted = true) :
    c.isRunning = false := by
  simp [isRunning, h]

theorem Control.interrupt_of_not_isRunning {c : Control} (h : c.isRunning = false) :
    c.interrupt = none := by
  refine Option.eq_none_iff_forall_not_mem.2 fun c' hc => ?_
  rw [(Control.interrupt_eq_some_iff.1 hc).1] at h
  cases h

theorem Control.resume_of_not_isRunning {c : Control} (h : c.isRunning = false)
    (mode : DebugMode) : c.resume mode = none := by
  simp [resume, h]

theorem Control.blocks_of_interrupted {c : Control} (h : c.interrupted = true) (w : Wait κ) :
    c.blocks w = false := by
  cases w <;> simp [blocks, isHeld, awaitsAnswer, h]

/-- Where a worker goes that finds its wait to be over and the flag up. -/
def Wait.interrupted : Wait κ → Point κ
  | resumption hold => .announcing .resumed (.proceed (hold.next (.error .interrupted)))
  | answer ask => .closingRead (.answer (ask.next (.error .interrupted)))

theorem System.step_call_of_free {task : Task κ} {state : κ} (ht : s.freeTask? run = some task)
    (hp : task.point = .body state) (ha : s.aborted = false) (c : Call κ) :
    s.step setup (.call run c) = some (s.call setup run c) := by
  simp [System.step, ha, ht, hp]

theorem System.takeAnswer_of_interrupted (h : s.control.interrupted = true) :
    s.takeAnswer run ask = s.goto run (Wait.answer ask).interrupted := by
  rw [System.takeAnswer, Control.takeAnswer_of_interrupted h]
  rfl

theorem System.advance_test_of_interrupted {args : List String} {elapsed : Nat}
    (h : s.control.interrupted = true) (w : Wait κ) :
    s.advance setup run args elapsed w.test = some (s.goto run w.interrupted) := by
  have hb := Control.blocks_of_interrupted h w
  cases w with
  | resumption hold =>
    have hb : s.control.isHeld hold.generation = false := hb
    simp [Wait.test, Wait.interrupted, System.advance, hb, h]
  | answer ask =>
    have hb : s.control.awaitsAnswer = false := hb
    simp [Wait.test, System.advance, hb, System.takeAnswer_of_interrupted h]

theorem System.advance_checking_of_interrupted {args : List String} {elapsed : Nat}
    (h : s.control.interrupted = true) :
    s.advance setup run args elapsed (.checking ask) =
      some (s.goto run (Wait.answer ask).interrupted) := by
  have hb : s.control.awaitsAnswer = false := Control.blocks_of_interrupted h (.answer ask)
  simp [System.advance, hb, System.takeAnswer_of_interrupted h]

end Flag

/-! ## Until the next start -/

/-- What an accepted interrupt comes to. It leads to `s₁`, and the steps `m`, without an accepted
start, to `s₂`. There, resumes are rejected and another interrupt changes nothing; a pause point
only reports its position and a read is not opened, and both answer at once that the run was
interrupted. A worker that waits does not go to sleep again, and one that sleeps is about to be
woken by another thread. Unless a callback panics, a pause or a read in progress answers that it was
interrupted, whatever else has come. -/
structure Stopped (setup : Setup κ) (s₁ : System κ) (m : List (Moment κ)) (s₂ : System κ) :
    Prop where
  isRunning : s₂.control.isRunning = false
  resume : ∀ t mode, s₂.control.resume mode = none ∧ s₂.act t (.resume mode) = s₂
  again : ∀ t, s₂.act t .interrupt = s₂
  pausePoint : ∀ run task state position next, s₂.freeTask? run = some task →
    task.point = .body state → s₂.aborted = false →
    s₂.step setup (.call run (.pausePoint position next)) =
      some ({ s₂ with control := { s₂.control with position } }.goto run
        (.body (next (.error .interrupted))))
  read : ∀ run task state type next, s₂.freeTask? run = some task →
    task.point = .body state → s₂.aborted = false →
    s₂.step setup (.call run (.read type next)) =
      some (s₂.goto run (.body (next (.error .interrupted))))
  check : ∀ run task state next, s₂.freeTask? run = some task →
    task.point = .body state → s₂.aborted = false →
    s₂.step setup (.call run (.checkInterrupted next)) =
      some (s₂.goto run (.body (next (.error .interrupted))))
  tested : ∀ run w elapsed, s₂.point? run = some (Wait.test w) → s₂.aborted = false →
    s₂.step setup (.advance run elapsed) = some (s₂.goto run w.interrupted)
  checked : ∀ run ask elapsed, s₂.point? run = some (.checking ask) → s₂.aborted = false →
    s₂.step setup (.advance run elapsed) = some (s₂.goto run (Wait.answer ask).interrupted)
  woken : ∀ run w, s₂.point? run = some (Wait.sleep w) →
    ∃ t, t ≠ .worker run ∧ (t, .notify) ∈ s₂.inFlight
  pauseReturned : ∀ run hold f state, s₁.phase? run = some (.pausing hold) →
    m.any (Moment.isCall run) = false → m.any (Moment.isPanic run) = false →
    s₂.phase? run = some f → f.GoesOn state → state = hold.next (.error .interrupted)
  readReturned : ∀ run ask f state, s₁.phase? run = some (.reading ask) →
    m.any (Moment.isCall run) = false → m.any (Moment.isPanic run) = false →
    s₂.phase? run = some f → f.GoesOn state → state = ask.next (.error .interrupted)

section Stopped

theorem Trail.interrupted_of_flag (hm : Trail setup s₁ m s₂) (hzero : m.countP Moment.starts = 0)
    (h : s₁.control.interrupted = true) : s₂.control.interrupted = true := by
  rw [hm.interrupted_eq_any hzero, h, Bool.true_or]

theorem Trail.pauseReturned_of_flag (hm : Trail setup s₁ m s₂)
    (hzero : m.countP Moment.starts = 0) (h : s₁.control.interrupted = true)
    (h₀ : s₁.phase? run = some (.pausing hold)) (hcall : m.any (Moment.isCall run) = false) :
    ∃ f, s₂.phase? run = some f ∧
      Stage run (.pausing hold) (fun state _ _ => state = hold.next (.error .interrupted)) m f := by
  refine hm.stage hcall h₀ fun n s l s' t q hn hm hcall ht hpausing => ?_
  obtain hstay | hpanic | ⟨-, -, -, hleft⟩ := ht.turn.pausing_cases hpausing
  · exact .inl hstay
  · exact .inr (.inr hpanic)
  · -- the last test finds the flag up
    have hi := hm.interrupted_of_flag (Nat.eq_zero_of_le_zero (hzero ▸ hn.sublist.countP_le)) h
    refine .inr (.inl ⟨_, .inr (.inl hleft), ?_⟩)
    rw [hi, if_pos rfl]

theorem Trail.readReturned_of_flag (hm : Trail setup s₁ m s₂)
    (hzero : m.countP Moment.starts = 0) (h : s₁.control.interrupted = true)
    (h₀ : s₁.phase? run = some (.reading ask)) (hcall : m.any (Moment.isCall run) = false) :
    ∃ f, s₂.phase? run = some f ∧
      Stage run (.reading ask) (fun state _ _ => state = ask.next (.error .interrupted)) m f := by
  refine hm.stage hcall h₀ fun n s l s' t q hn hm hcall ht hreading => ?_
  obtain ⟨hstay, -⟩ | ⟨-, -, -, hleft⟩ | ⟨hpanic, -⟩ := ht.turn.reading_cases hreading
  · exact .inl hstay
  · -- the last look finds the flag up
    have hi := hm.interrupted_of_flag (Nat.eq_zero_of_le_zero (hzero ▸ hn.sublist.countP_le)) h
    refine .inr (.inl ⟨_, .inl hleft, ?_⟩)
    rw [Control.takeAnswer_of_interrupted hi]
  · exact .inr (.inr hpanic)

/-- **Until the next start, an accepted interrupt stops the run at every pause point, read and
check.** -/
theorem Trail.stopped (hm : Trail setup s₁ m s₂) (hr : Reachable setup s₁)
    (hzero : m.countP Moment.starts = 0) (h : s₁.control.interrupted = true) :
    Stopped setup s₁ m s₂ := by
  have hi := hm.interrupted_of_flag hzero h
  have hr₂ := hm.reachable_append hr
  have ho := hr₂.orderly
  have hrunning := Control.isRunning_of_interrupted hi
  refine
    { isRunning := hrunning
      resume := fun t mode => ?_
      again := fun t => ?_
      pausePoint := fun run task state position next ht hp ha => ?_
      read := fun run task state type next ht hp ha => ?_
      check := fun run task state next ht hp ha => ?_
      tested := fun run w elapsed hw ha => ?_
      checked := fun run ask elapsed hp ha => ?_
      woken := fun run w hw => ?_
      pauseReturned := fun run hold f state h₀ hcall hpanic hf hgoes => ?_
      readReturned := fun run ask f state h₀ hcall hpanic hf hgoes => ?_ }
  · have hnone := Control.resume_of_not_isRunning hrunning mode
    exact ⟨hnone, by simp [System.act, hnone]⟩
  · simp [System.act, Control.interrupt_of_not_isRunning hrunning]
  · rw [System.step_call_of_free ht hp ha]
    simp [System.call, Control.reach, hi]
  · rw [System.step_call_of_free ht hp ha]
    simp [System.call, Control.openRead, hi]
  · rw [System.step_call_of_free ht hp ha]
    simp [System.call, hi]
  · obtain ⟨args, hstep⟩ := ho.step_advance hw (by cases w <;> rfl) ha elapsed
    rw [hstep, System.advance_test_of_interrupted hi]
  · obtain ⟨args, hstep⟩ := ho.step_advance hp rfl ha elapsed
    rw [hstep, System.advance_checking_of_interrupted hi]
  · -- the flag ends the wait, so a notification for the sleeper is on its way
    obtain hb | ⟨t, ht⟩ := hr₂.guarded run w hw
    · rw [Control.blocks_of_interrupted hi] at hb
      cases hb
    · refine ⟨t, ?_, ht⟩
      rintro rfl
      exact System.isBusy_eq_false_iff.1 (ho.not_busy_sleep hw) _ ht
  -- a call that was under way when the flag was set returns with the interruption too
  · obtain ⟨f', hf', hstage⟩ := hm.pauseReturned_of_flag hzero h h₀ hcall
    obtain rfl := Option.some.inj (hf.symm.trans hf')
    obtain ⟨-, -, -, -, hstate⟩ := hstage.taken hgoes rfl hpanic
    exact hstate
  · obtain ⟨f', hf', hstage⟩ := hm.readReturned_of_flag hzero h h₀ hcall
    obtain rfl := Option.some.inj (hf.symm.trans hf')
    obtain ⟨-, -, -, -, hstate⟩ := hstage.taken hgoes rfl hpanic
    exact hstate

end Stopped

/-! ## The next start forgets the flag -/

/-- The state with the flag of an interrupt set so. -/
def System.flagged (s : System κ) (raised : Bool) : System κ :=
  { s with control := { s.control with interrupted := raised } }

section Flagged

variable {raised : Bool} {a : Action}

theorem alive_of_step (ha : s.control.alive = false) (h : s.step setup l = some s')
    (hst : (Moment.mk s l).starts = false) : s'.control.alive = false := by
  cases System.stepped_of_step h with
  | act _ hacted =>
    obtain ⟨-, -, args, howed⟩ | ⟨he, -⟩ := hacted.alive_cases
    · rw [← hacted.isSubmit, howed] at hst
      cases hst
    · rw [he, ha]
  | notify _ hc | submit _ hc | wake _ _ hc => rw [hc, ha]
  | turn hl ht =>
    obtain ⟨-, -, hend⟩ | ⟨-, he⟩ := ht.turn.alive_cases
    · exact hend
    · rw [he, ha]

/-- While nobody is alive, a call leaves the flag alone, or is a start, which lowers it. -/
theorem System.act_flagged (ha : s.control.alive = false) :
    (s.flagged raised).act t a =
      if (Moment.mk s (.act t a)).starts then s.act t a else (s.act t a).flagged raised := by
  cases a with
  | start args mode => simp [act, flagged, Moment.starts, Control.start, ha, promise]
  | resume mode =>
    simp [act, flagged, Moment.starts, Control.resume, Control.isRunning, ha]
  | interrupt => simp [act, flagged, Moment.starts, Control.interrupt, ha]
  | settle ticket answer =>
    by_cases hk : ticket ∈ s.handles
    · cases hc : s.control.settle ticket answer with
      | none =>
        have hc' : ({ s.control with interrupted := raised } : Control).settle ticket answer =
            none := by
          unfold Control.settle at hc ⊢
          simpa using hc
        simp [act, flagged, Moment.starts, hk, hc, hc']
      | some c =>
        have hc' : ({ s.control with interrupted := raised } : Control).settle ticket answer =
            some { c with interrupted := raised } := by
          obtain ⟨hopen, rfl⟩ := Control.settle_eq_some_iff.1 hc
          exact Control.settle_eq_some_iff.2 ⟨hopen, rfl⟩
        simp [act, flagged, Moment.starts, hk, hc, hc', promise]
    · simp [act, flagged, Moment.starts, hk]
  | _ => rfl

theorem System.turn_flagged {task : Task κ} (h : task.point.phase.isOver = true) :
    (s.flagged raised).turn setup task l =
      (s.turn setup task l).map fun s' => s'.flagged raised := by
  obtain ⟨args, q⟩ := task
  obtain ⟨result, queue, rfl⟩ | rfl : (∃ result queue, q = .ending result queue) ∨ q = .done :=
    Point.over_cases h
  · cases l <;> cases queue <;> rfl
  · cases l <;> rfl

/-- While nobody is alive, every worker is done, or tells observers of the end. -/
theorem Orderly.isOver_of_idle (ho : Orderly s) (ha : s.control.alive = false) {task : Task κ}
    (ht : s.tasks[run]? = some task) : task.point.phase.isOver = true := by
  by_contra hn
  have halive := ho.alive_of_phase (System.phase?_eq_some_iff.2 ⟨task, ht, rfl⟩) (by simpa using hn)
  rw [ha] at halive
  cases halive

theorem Orderly.step_flagged_of_not_act (ho : Orderly s) (ha : s.control.alive = false)
    (hl : ∀ t a, l ≠ .act t a) : (s.flagged raised).step setup l =
      (s.step setup l).map fun s' => s'.flagged raised := by
  refine System.step_eq_map rfl fun haborted haborted' => ?_
  cases hw : l.worker? with
  | some run =>
    rw [System.step_turn hw haborted, System.step_turn hw haborted', Option.map_bind]
    refine Option.bind_congr fun task ht => ?_
    exact System.turn_flagged (ho.isOver_of_idle ha (System.freeTask?_eq_some_iff.1 ht).2)
  | none =>
    cases l with
    | act t a => exact absurd rfl (hl t a)
    | complete t =>
      rw [System.step_complete haborted, System.step_complete haborted']
      unfold System.complete
      rw [Option.map_map]
      refine Option.map_congr fun q _ => ?_
      obtain ⟨u, q⟩ := q
      cases q <;> rfl
    | wake run =>
      rw [System.step_wakeUp haborted, System.step_wakeUp haborted', Option.map_bind]
      refine Option.bind_congr fun task _ => ?_
      simp only [Function.comp_apply]
      split_ifs <;> rfl
    | _ => cases hw

/-- **While nobody is alive, a step leaves the flag alone, or is a start, which lowers it.** -/
theorem Orderly.step_flagged (ho : Orderly s) (ha : s.control.alive = false) :
    (s.flagged raised).step setup l = (s.step setup l).map fun s' =>
      if (Moment.mk s l).starts then s' else s'.flagged raised := by
  by_cases hl : ∀ t a, l ≠ .act t a
  · simpa [(Moment.not_of_not_act (s := s) hl).1] using ho.step_flagged_of_not_act ha hl
  · simp only [not_forall, not_not] at hl
    obtain ⟨t, a, rfl⟩ := hl
    refine System.step_eq_map rfl fun haborted haborted' => ?_
    have hmay : (s.flagged raised).mayAct t = s.mayAct t := rfl
    rw [System.step_act haborted, System.step_act haborted', hmay, System.act_flagged ha]
    split_ifs <;> rfl

/-- **The next start forgets the flag that a run has left behind**: the steps are the same with any
flag, and so are the states from that start on. -/
theorem Orderly.steps_flagged (ho : Orderly s) (ha : s.control.alive = false)
    (labels : List (Label κ)) :
    (s.flagged raised).steps setup labels = (s.steps setup labels).map fun s' =>
      if (s.moments setup labels).any Moment.starts then s' else s'.flagged raised := by
  -- nobody is alive up to the start; after it both states are one
  induction labels generalizing s with
  | nil => rfl
  | cons l labels ih =>
    have hstep : (s.flagged raised).step setup l = (s.step setup l).map fun s' =>
        if (Moment.mk s l).starts then s' else s'.flagged raised := ho.step_flagged ha
    rw [System.steps, System.steps, System.moments, hstep]
    cases hs : s.step setup l with
    | none => rfl
    | some s₁ =>
      cases hst : (Moment.mk s l).starts with
      | true => simp [hst]
      | false => simpa [hst] using ih (ho.step hs) (alive_of_step ha hs hst)

end Flagged

/-! ## A notification that comes late -/

/-- The state without the call that a thread has not finished. -/
def System.without (s : System κ) (t : Thread) : System κ :=
  { s with inFlight := s.inFlight.filter fun p => p.1 ≠ t }

section Without

variable {t u : Thread} {a : Action}

theorem System.isBusy_without (h : u ≠ t) : (s.without t).isBusy u = s.isBusy u := by
  simp only [isBusy, without, List.any_filter]
  refine List.any_congr rfl fun p => ?_
  by_cases hp : p.1 = u <;> simp [hp, h]

theorem System.act_without (h : u ≠ t) : (s.without t).act u a = (s.act u a).without t := by
  have hpromise : ∀ (control : Control) (q : Pending),
      ({ s.without t with control } : System κ).promise u q =
        (({ s with control } : System κ).promise u q).without t := fun control q => by
    simp [promise, without, List.filter_append, h]
  cases a with
  | start args mode =>
    simp only [act]
    rw [show (s.without t).control = s.control from rfl]
    cases s.control.start mode with
    | none => rfl
    | some c => exact hpromise c _
  | resume mode =>
    simp only [act]
    rw [show (s.without t).control = s.control from rfl]
    cases s.control.resume mode with
    | none => rfl
    | some c => exact hpromise c _
  | interrupt =>
    simp only [act]
    rw [show (s.without t).control = s.control from rfl]
    cases s.control.interrupt with
    | none => rfl
    | some c => exact hpromise c _
  | settle ticket answer =>
    simp only [act]
    rw [show (s.without t).handles = s.handles from rfl,
      show (s.without t).control = s.control from rfl]
    split_ifs
    · cases s.control.settle ticket answer with
      | none => rfl
      | some c =>
        simp [promise, without, List.filter_append, h]
    · rfl
  | _ => rfl

theorem System.mayAct_without (h : u ≠ t) : (s.without t).mayAct u = s.mayAct u := by
  unfold mayAct
  rw [isBusy_without h]
  rfl

theorem System.complete_without (h : u ≠ t) :
    (s.without t).complete u = (s.complete u).map fun s' => s'.without t := by
  have hfind : (s.without t).inFlight.find? (fun p => p.1 = u) =
      s.inFlight.find? fun p => p.1 = u := by
    rw [without, List.find?_filter]
    refine congrArg (List.find? · s.inFlight) (funext fun p => ?_)
    by_cases hp : p.1 = u <;> simp [hp, h]
  have hfilter : (s.without t).inFlight.filter (fun p => p.1 ≠ u) =
      (s.inFlight.filter fun p => p.1 ≠ u).filter fun p => p.1 ≠ t := by
    rw [without, List.filter_filter, List.filter_filter]
    exact List.filter_congr fun p _ => Bool.and_comm _ _
  unfold complete
  rw [hfind, hfilter, Option.map_map]
  refine Option.map_congr fun q _ => ?_
  obtain ⟨u, q⟩ := q
  cases q <;> rfl

/-- **A thread that has not finished its call does not matter to the steps before it does.** -/
theorem System.step_without (h : s.step setup l = some s') (hb : s.isBusy t = true)
    (hl : l ≠ .complete t) :
    (s.without t).step setup l = some (s'.without t) ∧ s'.isBusy t = true := by
  have ha : s.aborted = false := System.aborted_of_step h
  have ha' : (s.without t).aborted = false := ha
  have hkept : ∀ {ps}, s'.inFlight = s.inFlight ++ ps → s'.isBusy t = true := fun hi => by
    rw [isBusy, hi, List.any_append, Bool.or_eq_true]
    exact .inl hb
  -- a thread within a call makes no other call, nor does the worker that it may be take a turn
  cases hw : l.worker? with
  | some run =>
    obtain ⟨_, _, hturned⟩ := turned_of_step hw h
    rw [step_turn hw ha] at h
    obtain ⟨task, htask, h⟩ := Option.bind_eq_some_iff.1 h
    have hfree := freeTask?_eq_some_iff.1 htask
    have hne : Thread.worker run ≠ t := by
      rintro rfl
      rw [hfree.1] at hb
      cases hb
    have htask' : (s.without t).freeTask? run = some task :=
      freeTask?_eq_some_iff.2 ⟨by rw [isBusy_without hne, hfree.1], hfree.2⟩
    refine ⟨?_, hkept (by rw [hturned.inFlight, List.append_nil])⟩
    rw [step_turn hw ha', htask', Option.bind_some, without, turn_inFlight, h, Option.map_some,
      without, hturned.inFlight]
  | none =>
    cases l with
    | act u a =>
      obtain ⟨hmay, rfl⟩ := act_of_step h
      have hne : u ≠ t := by
        rintro rfl
        simp [mayAct, hb] at hmay
      obtain ⟨owed, -, -, hi⟩ := (s.acts_act u a).acted
      rw [step_act ha', mayAct_without hne, act_without hne, if_pos hmay]
      exact ⟨rfl, hkept hi⟩
    | complete u =>
      have hne : u ≠ t := fun he => hl (he ▸ rfl)
      rw [step_complete ha] at h
      rw [step_complete ha', complete_without hne, h]
      refine ⟨rfl, ?_⟩
      obtain ⟨⟨v, q⟩, -, rfl⟩ := Option.map_eq_some_iff.1 h
      obtain ⟨p, hp, hpt⟩ := List.any_eq_true.1 hb
      have hpt : p.1 = t := by simpa using hpt
      have hmem : p ∈ s.inFlight.filter fun p => p.1 ≠ u :=
        List.mem_filter.2 ⟨hp, by simp [hpt, Ne.symm hne]⟩
      cases q <;> exact List.any_eq_true.2 ⟨p, hmem, by simp [hpt]⟩
    | wake run =>
      obtain ⟨task, htask, hasleep, rfl⟩ := wake_of_step h
      rw [step_wakeUp ha']
      refine ⟨?_, hkept (List.append_nil _).symm⟩
      exact Option.bind_eq_some_iff.2 ⟨task, htask, if_pos hasleep⟩
    | _ => cases hw

theorem System.steps_without {labels : List (Label κ)} (h : s.steps setup labels = some s')
    (hb : s.isBusy t = true) (hl : .complete t ∉ labels) :
    (s.without t).steps setup labels = some (s'.without t) := by
  induction labels generalizing s with
  | nil =>
    obtain rfl := Option.some.inj h
    rfl
  | cons l labels ih =>
    obtain ⟨s₁, hs, h⟩ := Option.bind_eq_some_iff.1 h
    rw [List.mem_cons, not_or] at hl
    obtain ⟨hs', hb'⟩ := step_without hs hb (Ne.symm hl.1)
    rw [System.steps, hs']
    exact ih h hb' hl.2

theorem Point.wake_of_not_isAsleep {q : Point κ} (h : q.isAsleep = false) : q.wake = q := by
  cases q <;> first | rfl | cases h

theorem map_wake_of_awake {tasks : List (Task κ)}
    (h : ∀ task ∈ tasks, task.point.isAsleep = false) :
    tasks.map (fun task => { task with point := task.point.wake }) = tasks := by
  refine (List.map_congr_left fun task htask => ?_).trans (List.map_id tasks)
  rw [Point.wake_of_not_isAsleep (h task htask)]
  rfl

theorem Orderly.eq_of_isAsleep (ho : Orderly s) {r : RunId} {task task' : Task κ}
    (ht : s.tasks[run]? = some task) (h : task.point.isAsleep = true)
    (ht' : s.tasks[r]? = some task') (h' : task'.point.isAsleep = true) : run = r := by
  have halive : ∀ {q : Point κ}, q.isAsleep = true → q.phase.isOver = false := fun hq => by
    obtain ⟨w, rfl⟩ := Point.isAsleep_iff.1 hq
    cases w <;> rfl
  exact ho.eq_of_phase (System.phase?_eq_some_iff.2 ⟨task, ht, rfl⟩) (halive h)
    (System.phase?_eq_some_iff.2 ⟨task', ht', rfl⟩) (halive h')

theorem Orderly.map_wake_of_asleep (ho : Orderly s) {task : Task κ}
    (ht : s.tasks[run]? = some task) (h : task.point.isAsleep = true) :
    s.tasks.map (fun task => { task with point := task.point.wake }) =
      s.tasks.modify run fun task' => { task' with point := task.point.wake } := by
  refine List.ext_getElem? fun r => ?_
  rw [List.getElem?_modify, List.getElem?_map]
  by_cases hr : run = r
  · subst hr
    simp [ht]
  · cases ht' : s.tasks[r]? with
    | none => rfl
    | some task' =>
      have hawake : task'.point.isAsleep = false := by
        by_contra h'
        exact hr (ho.eq_of_isAsleep ht h ht' (by simpa using h'))
      simp [hr, Point.wake_of_not_isAsleep hawake]

theorem Orderly.steps_rouse (ho : Orderly s) (hs : s₁.tasks = s.tasks) (ha : s₁.aborted = false) :
    ∃ runs : List RunId, s₁.steps setup (runs.map .wake) = some (s₁.finishCall .notify) := by
  by_cases hsleep : ∃ (run : RunId) (task : Task κ), s.tasks[run]? = some task ∧
      task.point.isAsleep = true
  · obtain ⟨run, task, htask, hasleep⟩ := hsleep
    refine ⟨[run], ?_⟩
    have htask' : s₁.tasks[run]? = some task := hs ▸ htask
    rw [List.map_singleton, System.steps, System.step_wakeUp ha, htask', Option.bind_some,
      if_pos hasleep]
    have htasks := ho.map_wake_of_asleep htask hasleep
    rw [← hs] at htasks
    exact congrArg (fun tasks => some { s₁ with tasks }) htasks.symm
  · refine ⟨[], ?_⟩
    have hawake : ∀ task ∈ s₁.tasks, task.point.isAsleep = false := fun task htask => by
      obtain ⟨r, hr⟩ := List.mem_iff_getElem?.1 htask
      by_contra hasleep
      exact hsleep ⟨r, task, hs ▸ hr, by simpa using hasleep⟩
    exact congrArg (fun tasks => some { s₁ with tasks }) (map_wake_of_awake hawake).symm

/-- **When a notification arrives, it is as if the sleepers woke up for no reason.** -/
theorem Orderly.steps_wake (ho : Orderly s) (h : (t, .notify) ∈ s.inFlight)
    (hs : s.step setup (.complete t) = some s') :
    ∃ runs : List RunId, (s.without t).steps setup (runs.map .wake) = some s' := by
  have ha : s.aborted = false := System.aborted_of_step hs
  rw [System.step_complete ha, System.complete, ho.find?_inFlight h] at hs
  obtain rfl := Option.some.inj hs
  exact ho.steps_rouse rfl (show (s.without t).aborted = false from ha)

end Without

/-! ## Interrupts -/

/-- What holds of interrupts in a state `s` to which the steps `p` have led. One that is accepted
stops its run until the next start (`sticky`) and is not lost: the flag tells whether one has been
accepted since the latest start. One that comes while nobody is alive changes nothing (`idle`), and
one of a run that has ended is forgotten by the next start: with the flag or without it the steps
are the same, and from that start on so are the states. The notification of a call makes no
difference until it arrives (`unheard`), and then, be it in the next run, it is as if the sleepers
woke up for no reason (`heard`). -/
structure Interruption (setup : Setup κ) (p : List (Moment κ)) (s : System κ) : Prop where
  sticky : ∀ t s₁ m s₂, (Moment.mk s (.act t .interrupt)).interrupts = true →
    s.step setup (.act t .interrupt) = some s₁ → Trail setup s₁ m s₂ →
    m.countP Moment.starts = 0 → Stopped setup s₁ m s₂
  flag : ∀ run, p.countP Moment.starts = run + 1 →
    s.control.interrupted = (during run p).any Moment.interrupts
  idle : s.control.alive = false → ∀ t, s.act t .interrupt = s
  forgotten : s.control.alive = false → ∀ raised labels,
    (s.flagged raised).steps setup labels = (s.steps setup labels).map fun s' =>
      if (s.moments setup labels).any Moment.starts then s' else s'.flagged raised
  unheard : ∀ t labels s', (t, .notify) ∈ s.inFlight → s.steps setup labels = some s' →
    .complete t ∉ labels → (s.without t).steps setup labels = some (s'.without t)
  heard : ∀ t s', (t, .notify) ∈ s.inFlight → s.step setup (.complete t) = some s' →
    ∃ runs : List RunId, (s.without t).steps setup (runs.map .wake) = some s'

/-- **Interrupts are sticky, are not lost, and do not leak into the next run.** -/
theorem Trail.interruption {directory : String}
    (hp : Trail setup (System.initial setup directory) p s) : Interruption setup p s where
  sticky t s₁ m s₂ hx hs hm hzero := by
    have hi : s₁.control.interrupted = true := by
      rw [interrupted_of_step hs, hx, Bool.or_true]
      rfl
    exact hm.stopped (hp.reachable.step hs) hzero hi
  flag run hrun := hp.interrupted_eq hrun
  idle ha t := by
    have hrunning : s.control.isRunning = false := by simp [Control.isRunning, ha]
    simp [System.act, Control.interrupt_of_not_isRunning hrunning]
  forgotten ha raised labels := hp.reachable.orderly.steps_flagged ha labels
  unheard t labels s' ht hs hl := by
    have hb : s.isBusy t = true := List.any_eq_true.2 ⟨_, ht, by simp⟩
    exact System.steps_without hs hb hl
  heard t s' ht hs := hp.reachable.orderly.steps_wake ht hs

/-- A pause; an interrupt comes while a resume is on its way. -/
def interruptedPause : List (Label (Except Fault Unit)) :=
  toBody .stepInto ++ [.call 0 (.pausePoint ⟨1, 1⟩ fun answer => answer), .advance 0 0,
    .advance 0 0, .advance 0 0, .advance 0 0, .act (.controller 1) (.resume .stopped)]

/-- From the interrupt back to the body. -/
def afterInterrupt : List (Label (Except Fault Unit)) :=
  [.complete (.controller 1), .advance 0 0, .advance 0 0, .advance 0 0]

theorem interruption_interruptedPause :
    let setup : Setup (Except Fault Unit) := Setup.bare (.ok ())
    let s₀ := System.initial setup ""
    ∃ s s₁ s₂, s₀.steps setup interruptedPause = some s ∧
      s.step setup (.act (.controller 2) .interrupt) = some s₁ ∧
      s₁.steps setup afterInterrupt = some s₂ ∧
      s₂.point? 0 = some (.body (.error .interrupted)) ∧
      Stopped setup s₁ (s₁.moments setup afterInterrupt) s₂ ∧
      Interruption setup (s₀.moments setup interruptedPause) s :=
  ⟨_, _, _, rfl, rfl, rfl, rfl,
    (Trail.interruption (trail_of_steps
      (show (System.initial (Setup.bare (.ok ())) "").steps _ interruptedPause = some _ from
        rfl))).sticky (.controller 2) _ _ _ rfl rfl (trail_of_steps rfl) rfl,
    Trail.interruption (trail_of_steps rfl)⟩

end RunControl
