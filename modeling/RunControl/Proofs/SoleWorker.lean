import RunControl.Proofs.OpenRead

/-!
# One worker at a time

Every accepted start becomes one run, and a run ends once, with one result. Between the decision to
start and the submission to the pool a supervisor is alive without a worker.

* `Trail.results_cases`: the results of a run, from where its worker is;
* **`Trail.soleWorker`**: a supervisor is alive for one worker that is not over or for one accepted
  start on its way to the pool, and the calls are accepted accordingly;
* `unsubmitted_start`: why workers alone are too few.
-/

namespace RunControl

variable {κ : Type} {setup : Setup κ} {s₀ s s' : System κ} {p : List (Moment κ)} {l : Label κ}
  {run : RunId}

/-! ## The end of a run -/

theorem Point.phase_ne_finishing {q : Point κ} (h : q.isFinishing = false) (result : RunResult) :
    q.phase ≠ .finishing result := by
  intro hq
  cases q with
  | announcing notice after | telling notice queue after =>
    cases after with
    | leaveRead exit => cases exit <;> cases hq
    | _ => cases hq
  | finishing => cases h
  | _ => cases hq

/-- A turn ends the run with the result that the observers are then told, or does not end it. -/
theorem Turn.result_cases {c c' : Control} {hs hs' : List UInt64} {q q' : Point κ}
    (h : Turn run l c hs q c' hs' q') :
    (∃ result elapsed, l = .advance run elapsed ∧ q.phase = .finishing result ∧
        q'.phase = .ending result) ∨
      (∀ result, q.phase ≠ .finishing result) ∧ q'.phase.isOver = q.phase.isOver ∧
        ∀ result, q'.phase = .ending result → q.phase = .ending result := by
  cases h with
  | pass hp =>
    exact .inr ⟨Point.phase_ne_finishing hp.isFinishing, hp.moves.isOver, fun result hq =>
      (hq ▸ hp.moves).eq_ending⟩
  | finish => exact .inl ⟨_, _, rfl, rfl, rfl⟩
  | @park _ _ w =>
    refine .inr ⟨fun result hq => ?_, by rw [Point.phase_sleep], fun result hq => by
      rwa [← Point.phase_sleep]⟩
    cases w <;> cases hq
  | take hp =>
    rcases hp with rfl | rfl <;> exact .inr ⟨by rintro _ ⟨⟩, rfl, by rintro _ ⟨⟩⟩
  | unwind hp =>
    rw [hp]
    exact .inr ⟨by rintro _ ⟨⟩, rfl, by rintro _ ⟨⟩⟩
  | @close _ _ exit => cases exit <;> exact .inr ⟨by rintro _ ⟨⟩, rfl, by rintro _ ⟨⟩⟩
  | _ => exact .inr ⟨by rintro _ ⟨⟩, rfl, by rintro _ ⟨⟩⟩

theorem Moment.result?_of_other (hl : l.worker? ≠ some run) :
    (Moment.mk s l).result? run = none := by
  unfold result?
  split
  · rename_i r _ result hr _
    have hne : r ≠ run := by
      rintro rfl
      exact hl (by rw [show l = _ from hr]; rfl)
    exact if_neg hne
  · rfl

theorem result_of_step (h : s.step setup l = some s') :
    (∃ result, (Moment.mk s l).result? run = some result ∧
        s.phase? run = some (.finishing result) ∧ s'.phase? run = some (.ending result)) ∨
      (Moment.mk s l).result? run = none ∧
        (s'.phase? run).any Phase.isOver = (s.phase? run).any Phase.isOver ∧
        ∀ result, s'.phase? run = some (.ending result) → s.phase? run = some (.ending result) := by
  by_cases hl : l.worker? = some run
  · obtain ⟨t, q, ht⟩ := System.turned_of_step hl h
    obtain ⟨h1, h2⟩ := ht.phase?
    obtain ⟨result, elapsed, rfl, hq, hq'⟩ | ⟨hne, hover, hend⟩ := ht.turn.result_cases
    · refine .inl ⟨result, ?_, by rw [h1, hq], by rw [h2, hq']⟩
      simp [Moment.result?, h1, hq]
    · refine .inr ⟨?_, by rw [h1, h2, Option.any_some, Option.any_some, hover], fun result hr => ?_⟩
      · unfold Moment.result?
        split
        · rename_i result _ hr
          exact absurd (Option.some.inj (h1.symm.trans hr)) (hne result)
        · rfl
      · rw [h1, hend result (Option.some.inj (h2.symm.trans hr))]
  · have hnone := Moment.result?_of_other (s := s) hl
    obtain he | ⟨-, hno, hbusy⟩ := (System.stepped_of_step h).phase?_eq hl
    · rw [he]
      exact .inr ⟨hnone, rfl, fun _ hr => hr⟩
    · rw [hno, hbusy]
      exact .inr ⟨hnone, rfl, by rintro _ ⟨⟩⟩

theorem System.isOver_of_step (h : (s.phase? run).any Phase.isOver = true)
    (hs : s.step setup l = some s') : (s'.phase? run).any Phase.isOver = true := by
  obtain ⟨result, -, hbefore, -⟩ | ⟨-, hover, -⟩ := result_of_step hs
  · rw [hbefore] at h
    cases h
  · rw [hover, h]

/-- **A run that is over has ended once, with the result that the observers are told.** -/
theorem Trail.results_cases {directory : String}
    (hp : Trail setup (System.initial setup directory) p s) :
    ((results run p).length = if (s.phase? run).any Phase.isOver then 1 else 0) ∧
      ∀ result, s.phase? run = some (.ending result) → results run p = [result] := by
  induction hp with
  | nil => exact ⟨rfl, by rintro _ ⟨⟩⟩
  | @cons p s s' l _ hs ih =>
    unfold results at ih ⊢
    obtain ⟨result, hx, hbefore, hafter⟩ | ⟨hx, hover, hend⟩ := result_of_step hs
    · have hnil : p.filterMap (Moment.result? run) = [] := by
        rw [hbefore] at ih
        exact List.length_eq_zero_iff.1 ih.1
      rw [List.filterMap_cons_some hx, hnil, hafter]
      refine ⟨rfl, fun r hr => ?_⟩
      obtain rfl : result = r := by simpa using hr
      rfl
    · rw [List.filterMap_cons_none hx, hover]
      exact ⟨ih.1, fun r hr => ih.2 r (hend r hr)⟩

/-! ## The calls of a controller -/

/-- What holds of a supervisor in the state `s` to which the steps `p` have led. At most one
submitted worker has not ended its run. The supervisor is alive for that worker or for one accepted
start that has still to be submitted, and a start is accepted when there is neither. Every accepted
start becomes one run, which ends at most once and with one result. Calls that are rejected or
ignored change nothing. While an observer is told of the end of a run, the run has ended with that
result, and a start is ignored only on account of another run. -/
structure SoleWorker (p : List (Moment κ)) (s : System κ) : Prop where
  atWork_le : s.atWork ≤ 1
  sole : ∀ r r' f f', s.phase? r = some f → f.isOver = false → s.phase? r' = some f' →
    f'.isOver = false → r = r'
  alive : s.control.alive = true → s.atWork = 1 ∧ s.owed = 0 ∨ s.atWork = 0 ∧ s.owed = 1
  not_alive : s.control.alive = false → s.atWork = 0 ∧ s.owed = 0
  start_accepted : ∀ t args mode,
    (Moment.mk s (.act t (.start args mode))).starts = true ↔ s.atWork = 0 ∧ s.owed = 0
  start_ignored : ∀ t args mode, 0 < s.atWork ∨ 0 < s.owed → s.act t (.start args mode) = s
  starts : p.countP Moment.starts = s.tasks.length + s.owed
  results : ∀ r, (results r p).length = if (s.phase? r).any Phase.isOver then 1 else 0
  resume_rejected : ∀ t mode, s.control.isRunning = false → s.act t (.resume mode) = s
  interrupt_ignored : ∀ t, s.control.isRunning = false → s.act t .interrupt = s
  at_rest : s.control.alive = false →
    s.control.read.awaiting = false ∧ s.control.read.outcome = .pending
  ended : ∀ r result queue, s.point? r = some (.ending result queue) →
    RunControl.results r p = [result] ∧ ∀ mode, s.control.start mode = none →
      0 < s.owed ∨ ∃ r' f, r' ≠ r ∧ s.phase? r' = some f ∧ f.isOver = false

theorem Orderly.outstanding_eq_zero_iff (ho : Orderly s) :
    s.outstanding = 0 ↔ s.control.alive = false := by
  rw [ho.outstanding]
  cases s.control.alive <;> simp

/-- A supervisor is alive for a worker or for a start on its way to the pool. -/
theorem Orderly.alive_cases (ho : Orderly s) :
    s.control.alive = true ∧ (s.atWork = 1 ∧ s.owed = 0 ∨ s.atWork = 0 ∧ s.owed = 1) ∨
      s.control.alive = false ∧ s.atWork = 0 ∧ s.owed = 0 := by
  have hone := ho.outstanding
  unfold System.outstanding at hone
  cases ha : s.control.alive with
  | true =>
    rw [ha, if_pos rfl] at hone
    exact .inl ⟨rfl, by omega⟩
  | false =>
    rw [ha, if_neg Bool.false_ne_true] at hone
    exact .inr ⟨rfl, by omega⟩

/-- Whoever keeps a start from being accepted is alive in the pool or on its way to it. -/
theorem Orderly.owed_or_alive (ho : Orderly s) {mode : DebugMode}
    (h : s.control.start mode = none) :
    0 < s.owed ∨ ∃ r f, s.phase? r = some f ∧ f.isOver = false := by
  have ha : s.control.alive = true := by
    by_contra ha
    simp [Control.start, ha] at h
  have hone := ho.outstanding
  rw [ha, if_pos rfl, System.outstanding] at hone
  by_cases howed : 0 < s.owed
  · exact .inl howed
  · obtain ⟨t, ht, halive⟩ : ∃ t ∈ s.tasks, (!t.point.phase.isOver) = true :=
      List.countP_pos_iff.1 (show 0 < s.atWork by omega)
    obtain ⟨r, hr⟩ := List.mem_iff_getElem?.1 ht
    exact .inr ⟨r, _, System.phase?_eq_some_iff.2 ⟨t, hr, rfl⟩, by simpa using halive⟩

/-- **At most one run is alive, and the calls of controllers are accepted accordingly.** -/
theorem Trail.soleWorker {directory : String}
    (hp : Trail setup (System.initial setup directory) p s) : SoleWorker p s := by
  have ho := hp.reachable.orderly
  have hread := hp.reachable.openRead
  refine
    { atWork_le := ?_
      sole := fun r r' f f' h hf h' hf' => ho.eq_of_phase h hf h' hf'
      alive := fun h => ?_
      not_alive := fun h => ?_
      start_accepted := fun t args mode => ?_
      start_ignored := fun t args mode h => ?_
      starts := hp.starts_eq
      results := fun r => hp.results_cases.1
      resume_rejected := fun t mode h => ?_
      interrupt_ignored := fun t h => ?_
      at_rest := fun h => ?_
      ended := fun r result queue hr => ?_ }
  -- the counts follow from the flag, and the flag decides what becomes of a call
  · obtain ⟨-, h | h⟩ | ⟨-, h⟩ := ho.alive_cases <;> omega
  · obtain ⟨-, h'⟩ | ⟨hdead, -⟩ := ho.alive_cases
    · exact h'
    · cases h.symm.trans hdead
  · obtain ⟨halive, -⟩ | ⟨-, h'⟩ := ho.alive_cases
    · cases h.symm.trans halive
    · exact h'
  · obtain ⟨ha, h⟩ | ⟨ha, h⟩ := ho.alive_cases
    · simp only [Moment.starts, Control.start, ha]
      refine ⟨by rintro ⟨⟩, fun hnone => ?_⟩
      omega
    · simp [Moment.starts, Control.start, ha, h]
  · obtain ⟨ha, -⟩ | ⟨-, hnone⟩ := ho.alive_cases
    · simp [System.act, Control.start, ha]
    · omega
  · simp [System.act, Control.resume, h]
  · have hi : s.control.interrupt = none := by
      rw [Option.eq_none_iff_forall_not_mem]
      intro c hc
      simp [(Control.interrupt_eq_some_iff.1 hc).1] at h
    simp [System.act, hi]
  · have hawaiting : s.control.read.awaiting = false := by
      by_contra ha
      obtain ⟨r, f, hf, hreading⟩ := hread.reader (by simpa using ha)
      have halive := ho.alive_of_phase hf (Phase.isOver_eq_false_of_isReading hreading)
      simp [halive] at h
    exact ⟨hawaiting, hread.outcome hawaiting⟩
  -- the run that is ending is over, so whoever keeps a start out is another
  · have hphase : s.phase? r = some (.ending result) := by
      rw [System.phase?, hr]
      rfl
    refine ⟨hp.results_cases.2 result hphase, fun mode h => ?_⟩
    obtain howed | ⟨r', f, hf, halive⟩ := ho.owed_or_alive h
    · exact .inl howed
    · refine .inr ⟨r', f, ?_, hf, halive⟩
      rintro rfl
      obtain rfl : Phase.ending result = f := Option.some.inj (hphase.symm.trans hf)
      cases halive

/-- A run from its start to its end, while another controller tries to start one, and then a start
from the callback that is told of the end. -/
def wholeRun : List (Label Unit) :=
  [.act (.controller 0) (.addObserver "o"), .act (.controller 0) (.start [] .breakpoint),
    .act (.controller 1) (.start [] .breakpoint), .complete (.controller 0), .advance 0 0,
    .advance 0 0, .returned 0, .advance 0 0, .advance 0 0, .call 0 (.finish (.ok ())),
    .advance 0 0, .advance 0 0, .advance 0 0, .advance 0 0,
    .act (.worker 0) (.start [] .breakpoint)]

theorem soleWorker_wholeRun :
    ∃ s, (System.initial (Setup.bare ()) "").steps (Setup.bare ()) wholeRun = some s ∧
      s.owed = 1 ∧
      SoleWorker ((System.initial (Setup.bare ()) "").moments (Setup.bare ()) wholeRun) s :=
  ⟨_, rfl, rfl, Trail.soleWorker (trail_of_steps rfl)⟩

/-- **A supervisor can be alive although no worker has been submitted.** A start that comes before
the submission is ignored. -/
theorem unsubmitted_start :
    ∃ s, (System.initial (Setup.bare ()) "").steps (Setup.bare ())
        [.act (.controller 0) (.start [] .breakpoint)] = some s ∧
      s.control.alive = true ∧ s.tasks = [] ∧ s.atWork = 0 ∧
      (Moment.mk s (.act (.controller 1) (.start [] .breakpoint))).starts = false ∧
      s.act (.controller 1) (.start [] .breakpoint) = s :=
  ⟨_, rfl, rfl, rfl, rfl, rfl, rfl⟩

end RunControl
