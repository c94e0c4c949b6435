import RunControl.Proofs.Progress
import RunControl.Proofs.SoleWorker
import RunControl.Proofs.Wakeup

/-!
# Runs that are served come to their end

A schedule is an execution that goes on for ever, in any order of the threads and with any behaviour
of the code around the supervisor. A run of it is served when everybody else does their part: calls
and callbacks come to an end, by a return or by a panic, the body makes finitely many calls, and
what the run waits for comes.

* `Schedule`, `Served`;
* `Schedule.queued`: an accepted start comes to the pool;
* `Schedule.lower_of_wait`, `Schedule.lower`: a worker that is served gets ahead;
* **`Schedule.exists_done`**, **`Schedule.exists_endsAt`**: a run that is served ends, once, with
  one result.
-/

namespace RunControl

variable {κ : Type}

/-- An execution that goes on for ever. -/
structure Schedule (setup : Setup κ) where
  directory : String
  state : ℕ → System κ
  label : ℕ → Label κ
  begins : state 0 = System.initial setup directory
  step : ∀ n, (state n).step setup (label n) = some (state (n + 1))

namespace Schedule

variable {setup : Setup κ} (e : Schedule setup)

/-- The step number `n`. -/
def moment (n : ℕ) : Moment κ := ⟨e.state n, e.label n⟩

/-- The first `n` steps, the latest first. -/
def moments : ℕ → List (Moment κ)
  | 0 => []
  | n + 1 => e.moment n :: moments n

theorem trail (n : ℕ) :
    Trail setup (System.initial setup e.directory) (e.moments n) (e.state n) := by
  induction n with
  | zero =>
    rw [e.begins]
    exact .nil
  | succ n ih => exact ih.cons (e.step n)

/-- The steps from number `n` on, before number `n + d`. -/
def between (n : ℕ) : ℕ → List (Moment κ)
  | 0 => []
  | d + 1 => e.moment (n + d) :: between n d

theorem trail_between (n d : ℕ) : Trail setup (e.state n) (e.between n d) (e.state (n + d)) := by
  induction d with
  | zero => exact .nil
  | succ d ih => exact ih.cons (e.step (n + d))

theorem moments_add (n d : ℕ) : e.moments (n + d) = e.between n d ++ e.moments n := by
  induction d with
  | zero => rfl
  | succ d ih => exact congrArg (e.moment (n + d) :: ·) ih

theorem exists_of_mem_between {n d : ℕ} {x : Moment κ} (h : x ∈ e.between n d) :
    ∃ k, n ≤ k ∧ x = e.moment k := by
  induction d with
  | zero => cases h
  | succ d ih =>
    obtain rfl | h := List.mem_cons.1 h
    · exact ⟨n + d, Nat.le_add_right n d, rfl⟩
    · exact ih h

theorem reachable (n : ℕ) : Reachable setup (e.state n) := (e.trail n).reachable

theorem stepped (n : ℕ) : System.Stepped (e.state n) (e.state (n + 1)) (e.label n) :=
  System.stepped_of_step (e.step n)

theorem aborted (n : ℕ) : (e.state n).aborted = false := System.aborted_of_step (e.step n)

/-- Finitely many steps, and then for ever one that changes nothing. -/
def ofSteps {directory : String} {labels : List (Label κ)} {idle : Label κ} {last : System κ}
    (h : (System.initial setup directory).steps setup labels = some last)
    (hidle : last.step setup idle = some last) : Schedule setup where
  directory := directory
  state n := ((System.initial setup directory).steps setup (labels.take n)).getD last
  label n := (labels[n]?).getD idle
  begins := rfl
  step n := by
    obtain hlt | hle := Nat.lt_or_ge n labels.length
    · -- every part of the steps is possible
      have hsplit : labels.take n ++ labels[n] :: labels.drop (n + 1) = labels := by simp
      rw [← hsplit, System.steps_append] at h
      obtain ⟨s₁, hs₁, h⟩ := Option.bind_eq_some_iff.1 h
      obtain ⟨s₂, hs₂, -⟩ := Option.bind_eq_some_iff.1 h
      have hsucc :
          (System.initial setup directory).steps setup (labels.take (n + 1)) = some s₂ := by
        rw [List.take_succ_eq_append_getElem hlt, System.steps_append, hs₁, Option.bind_some,
          System.steps, hs₂]
        rfl
      rw [hs₁, hsucc, List.getElem?_eq_getElem hlt]
      exact hs₂
    · rw [List.take_of_length_le hle, List.take_of_length_le (Nat.le_succ_of_le hle), h,
        List.getElem?_eq_none hle]
      exact hidle

theorem ofSteps_state {directory : String} {labels : List (Label κ)} {idle : Label κ}
    {last : System κ} {h : (System.initial setup directory).steps setup labels = some last}
    {hidle : last.step setup idle = some last} {n : ℕ} (hn : labels.length ≤ n) :
    (ofSteps h hidle).state n = last := by
  change ((System.initial setup directory).steps setup (labels.take n)).getD last = last
  rw [List.take_of_length_le hn, h, Option.getD_some]

/-- The worker of the run waits for `w`, asleep or about to test. -/
def Waits (run : RunId) (w : Wait κ) (n : ℕ) : Prop :=
  (e.state n).point? run = some w.test ∨ (e.state n).point? run = some w.sleep

end Schedule

/-- Everybody else does their part in the run: every thread finishes its calls, a worker that is
awake takes its turn (it is scheduled, and the callback or the computation on it ends), the body
makes finitely many calls, and what the worker waits for comes, so that its condition is false from
then on. -/
structure Served {setup : Setup κ} (e : Schedule setup) (run : RunId) : Prop where
  completes : ∀ n t, (e.state n).isBusy t = true → ∃ k, n ≤ k ∧ e.label k = .complete t
  turns : ∀ n q, (e.state n).point? run = some q → q.isAsleep = false → q ≠ .done →
    ∃ k, n ≤ k ∧ (e.label k).worker? = some run
  terminates : ∃ n, ∀ k c, n ≤ k → e.label k ≠ .call run c
  answered : ∀ n w, e.Waits run w n →
    ∃ k, n ≤ k ∧ ∀ j, k ≤ j → e.Waits run w j → (e.state j).control.blocks w = false

namespace Schedule

variable {setup : Setup κ} {e : Schedule setup} {run : RunId} {n k : ℕ} {q : Point κ} {w : Wait κ}
  {t : Thread}

theorem exists_when {P Q : ℕ → Prop} (h : ∃ k, n ≤ k ∧ Q k) (hP : P n)
    (hstep : ∀ k, n ≤ k → P k → ¬ Q k → P (k + 1)) : ∃ k, n ≤ k ∧ P k ∧ Q k := by
  by_contra hnever
  have hall : ∀ d, P (n + d) := by
    intro d
    induction d with
    | zero => exact hP
    | succ d ih =>
      exact hstep (n + d) (Nat.le_add_right n d) ih fun hQ =>
        hnever ⟨n + d, Nat.le_add_right n d, ih, hQ⟩
  obtain ⟨k, hk, hQ⟩ := h
  obtain ⟨d, rfl⟩ := Nat.exists_eq_add_of_le hk
  exact hnever ⟨n + d, hk, hall d, hQ⟩

/-! ## From the start to the pool -/

theorem tasks_of_starts (hx : (e.moment n).starts = true) :
    (e.moments n).countP Moment.starts = (e.state n).tasks.length ∧
      ∃ t args, (t, .submit args) ∈ (e.state (n + 1)).inFlight ∧
        (e.state (n + 1)).tasks = (e.state n).tasks := by
  have ho := (e.reachable n).orderly
  have hstep := e.stepped n
  have hx' : (Moment.mk (e.state n) (e.label n)).starts = true := hx
  generalize e.label n = l at hstep hx'
  cases hstep with
  | @act t a owed _ ha ht hi =>
    rw [← ha.isSubmit] at hx'
    obtain ⟨halive, -, args, rfl⟩ | ⟨-, rfl | rfl⟩ := ha.alive_cases
    · have hzero := ho.outstanding_eq_zero_iff.2 halive
      have howed : (e.state n).owed = 0 := by
        unfold System.outstanding at hzero
        omega
      refine ⟨by rw [(e.trail n).starts_eq, howed, Nat.add_zero], t, args, ?_, ht⟩
      rw [hi]
      exact List.mem_append_right _ (List.mem_singleton_self _)
    · cases hx'
    · cases hx'
  | notify | submit | wake => cases hx'
  | turn hl _ =>
    rw [(Moment.not_of_not_act (Label.not_act_of_worker hl)).1] at hx'
    cases hx'

theorem inFlight_kept {s s' : System κ} {l : Label κ} {owed : Pending}
    (h : System.Stepped s s' l) (hmem : (t, owed) ∈ s.inFlight) (hl : l ≠ .complete t) :
    (t, owed) ∈ s'.inFlight := by
  have hkept : ∀ {u}, l = .complete u → s'.inFlight = s.inFlight.filter (fun p => p.1 ≠ u) →
      (t, owed) ∈ s'.inFlight := fun hu hi => by
    rw [hi, List.mem_filter]
    refine ⟨hmem, ?_⟩
    have hne : t ≠ _ := fun he => hl (he ▸ hu)
    simpa using hne
  cases h with
  | act _ _ _ hi =>
    rw [hi]
    exact List.mem_append_left _ hmem
  | notify _ _ _ _ hi | submit _ _ _ _ hi => exact hkept rfl hi
  | wake _ _ _ _ _ hi =>
    rw [hi]
    exact hmem
  | turn _ ht =>
    rw [ht.inFlight]
    exact hmem

theorem length_tasks_of_submit {s s' : System κ} {l : Label κ} {args : List String}
    (ho : Orderly s) (h : System.Stepped s s' l) (hmem : (t, .submit args) ∈ s.inFlight)
    (hl : l ≠ .complete t) : s'.tasks.length = s.tasks.length := by
  have hmem' := inFlight_kept h hmem hl
  cases h with
  | act _ _ ht _ => rw [ht]
  | notify _ _ _ ht _ => rw [ht, List.length_map]
  | submit hother _ _ _ hi =>
    have hone : 0 < s'.owed := List.countP_pos_iff.2 ⟨_, hmem', rfl⟩
    have howed : s'.owed + 1 = s.owed := ho.owed_complete hother hi
    have hle := ho.outstanding
    unfold System.outstanding at hle
    split_ifs at hle <;> omega
  | wake _ _ _ _ ht _ => rw [ht, List.length_set]
  | turn _ ht => rw [ht.tasks, List.length_set]

/-- **An accepted start comes to the pool.** -/
theorem queued (hs : Served e run) (hx : (e.moment n).starts = true)
    (hrun : (e.moments n).countP Moment.starts = run) :
    ∃ k, n < k ∧ (e.state k).point? run = some .queued := by
  obtain ⟨hlen, t, args, hmem, htasks⟩ := tasks_of_starts hx
  have hbusy : (e.state (n + 1)).isBusy t = true := List.any_eq_true.2 ⟨_, hmem, by simp⟩
  obtain ⟨k, hk, ⟨hmem, hlen⟩, hcomplete⟩ := exists_when
    (P := fun k => (t, Pending.submit args) ∈ (e.state k).inFlight ∧
      (e.state k).tasks.length = run)
    (hs.completes (n + 1) t hbusy) ⟨hmem, by rw [htasks, ← hlen, hrun]⟩
    fun k _ hP hQ => ⟨inFlight_kept (e.stepped k) hP.1 hQ,
      (length_tasks_of_submit (e.reachable k).orderly (e.stepped k) hP.1 hQ).trans hP.2⟩
  have hstep := e.step k
  rw [hcomplete, System.step_complete (e.aborted k), System.complete,
    (e.reachable k).orderly.find?_inFlight hmem, Option.map_some] at hstep
  refine ⟨k + 1, Nat.lt_succ_of_lt hk, ?_⟩
  rw [← Option.some.inj hstep]
  simp [System.finishCall, System.point?, ← hlen]

/-! ## From one place to the next -/

theorem stays (h : (e.state k).point? run = some q) (hq : q.isAsleep = false)
    (hl : (e.label k).worker? ≠ some run) : (e.state (k + 1)).point? run = some q := by
  obtain he | ⟨-, hnone, -⟩ | ⟨he, -⟩ := (e.stepped k).point?_cases hl
  · rw [he, h]
  · rw [hnone] at h
    cases h
  · rw [he, h, Option.map_some]
    cases q <;> first | rfl | cases hq

theorem exists_point (h : (e.state n).point? run = some q) (hk : n ≤ k) :
    ∃ q, (e.state k).point? run = some q := by
  induction k, hk using Nat.le_induction with
  | base => exact ⟨q, h⟩
  | succ k _ ih =>
    obtain ⟨q, hq⟩ := ih
    obtain ⟨task, htask, -⟩ := System.point?_eq_some_iff.1 hq
    have hlt := (List.getElem?_eq_some_iff.1 htask).1
    have hlt' : run < (e.state (k + 1)).tasks.length := by
      obtain hlen | ⟨hlen, -⟩ := Orderly.length_tasks (e.stepped k)
      · rwa [hlen]
      · rw [hlen]
        exact Nat.lt_succ_of_lt hlt
    exact ⟨_, System.point?_eq_some_iff.2 ⟨_, List.getElem?_eq_getElem hlt', rfl⟩⟩

section Turns

variable (hcall : ∀ c, e.label k ≠ .call run c)

include hcall

theorem lower_of_turn (h : (e.state k).point? run = some q)
    (hl : (e.label k).worker? = some run) :
    ∃ q', (e.state (k + 1)).point? run = some q' ∧
      (q'.rank < q.rank ∨ ∃ w, q = Wait.test w ∧ q' = Wait.sleep w) := by
  obtain ⟨q₀, hq₀, ⟨q', hq', -, hnext⟩ | ⟨-, hs⟩⟩ := System.next_of_step hl hcall (e.step k)
  · obtain rfl := Option.some.inj (h.symm.trans hq₀)
    exact ⟨q', hq', hnext.rank_lt⟩
  · have ha := e.aborted (k + 1)
    rw [hs] at ha
    cases ha

theorem waits_step (h : e.Waits run w k) : e.Waits run w (k + 1) ∨
    ∃ q, (e.state (k + 1)).point? run = some q ∧ q.rank < w.test.rank := by
  by_cases hl : (e.label k).worker? = some run
  · obtain h | h := h
    · obtain ⟨q, hq, hlt | ⟨v, hv, rfl⟩⟩ := lower_of_turn hcall h hl
      · exact .inr ⟨q, hq, hlt⟩
      · have hw : w = v := by
          have := congrArg Point.wait? hv
          simpa using this
        exact .inl (.inr (hw ▸ hq))
    · obtain ⟨q, hq, hlt | ⟨v, hv, -⟩⟩ := lower_of_turn hcall h hl
      · exact .inr ⟨q, hq, by simpa using hlt⟩
      · have hparked := congrArg Point.parked? hv
        simp at hparked
  · obtain he | ⟨-, hnone, -⟩ | ⟨he, -⟩ := (e.stepped k).point?_cases hl
    · exact .inl (by rwa [Waits, he])
    · rcases h with h | h <;> rw [hnone] at h <;> cases h
    · refine .inl (.inl ?_)
      rcases h with h | h <;> rw [he, h] <;> cases w <;> rfl

end Turns

section Served

variable (hs : Served e run)

include hs

theorem test_of_sleep (hwaits : ∀ k, n ≤ k → e.Waits run w k)
    (hb : ∀ k, n ≤ k → (e.state k).control.blocks w = false) :
    ∃ k, n ≤ k ∧ (e.state k).point? run = some w.test := by
  obtain h | h := hwaits n le_rfl
  · exact ⟨n, le_rfl, h⟩
  · -- somebody is about to notify
    obtain hblocks | ⟨t, ht⟩ := (e.reachable n).guarded run w h
    · rw [hb n le_rfl] at hblocks
      cases hblocks
    · have hbusy : (e.state n).isBusy t = true := List.any_eq_true.2 ⟨_, ht, by simp⟩
      obtain ⟨k, hk, hmem, hcomplete⟩ := exists_when
        (P := fun k => (t, Pending.notify) ∈ (e.state k).inFlight)
        (hs.completes n t hbusy) ht fun k _ hP hQ => inFlight_kept (e.stepped k) hP hQ
      have hstep := e.step k
      rw [hcomplete] at hstep
      obtain ⟨s', hs', hwake⟩ : ∃ s', (e.state k).step setup (.complete t) = some s' ∧
          ∀ run, s'.point? run = ((e.state k).point? run).map Point.wake :=
        (e.reachable k).orderly.complete_notify hmem (e.aborted k)
      obtain rfl := Option.some.inj (hstep.symm.trans hs')
      refine ⟨k + 1, Nat.le_succ_of_le hk, ?_⟩
      rw [hwake]
      rcases hwaits k hk with h | h <;> rw [h] <;> cases w <;> rfl

variable (hcall : ∀ k c, n ≤ k → e.label k ≠ .call run c)

include hcall

theorem lower_of_awake (h : (e.state n).point? run = some q) (hw : q.wait? = none)
    (hd : q ≠ .done) : ∃ k q', n ≤ k ∧ (e.state k).point? run = some q' ∧ q'.rank < q.rank := by
  have hq : q.isAsleep = false := by
    by_contra hq
    obtain ⟨w, rfl⟩ := Point.isAsleep_iff.1 (by simpa using hq)
    simp at hw
  obtain ⟨k, hk, hpoint, hturn⟩ := exists_when
    (P := fun k => (e.state k).point? run = some q) (hs.turns n q h hq hd) h
    fun k _ hP hQ => stays hP hq hQ
  obtain ⟨q', hq', hlt | ⟨w, rfl, -⟩⟩ := lower_of_turn (fun c => hcall k c hk) hpoint hturn
  · exact ⟨k + 1, q', Nat.le_succ_of_le hk, hq', hlt⟩
  · simp at hw

/-- **A wait comes to an end.** -/
theorem lower_of_wait (h : e.Waits run w n) :
    ∃ k q, n ≤ k ∧ (e.state k).point? run = some q ∧ q.rank < w.test.rank := by
  by_contra hnever
  -- else the worker waits for ever
  have hwaits : ∀ k, n ≤ k → e.Waits run w k := by
    intro k hk
    induction k, hk using Nat.le_induction with
    | base => exact h
    | succ k hk ih =>
      obtain hstill | ⟨q, hq, hlt⟩ := waits_step (fun c => hcall k c hk) ih
      · exact hstill
      · exact absurd ⟨k + 1, q, Nat.le_succ_of_le hk, hq, hlt⟩ hnever
  obtain ⟨m, hm, hb⟩ := hs.answered n w h
  have hb' : ∀ k, m ≤ k → (e.state k).control.blocks w = false := fun k hk =>
    hb k hk (hwaits k (hm.trans hk))
  obtain ⟨i, hi, htest⟩ := test_of_sleep hs (fun k hk => hwaits k (hm.trans hk)) hb'
  -- at its next turn it finds the condition to be false
  obtain ⟨k, hk, hpoint, hturn⟩ := exists_when
    (P := fun k => (e.state k).point? run = some w.test)
    (hs.turns i w.test htest (by cases w <;> rfl) (by cases w <;> simp [Wait.test])) htest
    fun k _ hP hQ => stays hP (by cases w <;> rfl) hQ
  have hnk : n ≤ k := hm.trans (hi.trans hk)
  obtain ⟨q, hq, hlt | ⟨v, -, rfl⟩⟩ := lower_of_turn (fun c => hcall k c hnk) hpoint hturn
  · exact hnever ⟨k + 1, q, Nat.le_succ_of_le hnk, hq, hlt⟩
  · obtain hstays | ⟨-, hleaves⟩ := tested_of_step hpoint (e.step k)
    · have hparked := congrArg (Option.bind · Point.parked?) (hq.symm.trans (hstays.trans hpoint))
      simp at hparked
    · rw [if_neg (by simp [hb' k (hi.trans hk)])] at hleaves
      exact (hleaves v).2 hq

/-- A worker that is served gets to a lower place until it is done. -/
theorem lower (h : (e.state n).point? run = some q) (hd : q ≠ .done) :
    ∃ k q', n ≤ k ∧ (e.state k).point? run = some q' ∧ q'.rank < q.rank := by
  cases hw : q.wait? with
  | none => exact lower_of_awake hs hcall h hw hd
  | some w =>
    have hq : q = w.test ∨ q = w.sleep := by
      cases q <;> cases hw <;> first | exact .inl rfl | exact .inr rfl
    have hrank : q.rank = w.test.rank := by
      rcases hq with rfl | rfl
      · rfl
      · exact Point.rank_sleep w
    rw [hrank]
    refine lower_of_wait hs hcall ?_
    rcases hq with rfl | rfl
    · exact .inl h
    · exact .inr h

/-- **A worker whose body makes no more calls comes to its end.** -/
theorem exists_done_of_point (h : (e.state n).point? run = some q) :
    ∃ k, n ≤ k ∧ (e.state k).point? run = some .done := by
  induction hr : q.rank using WellFoundedLT.induction generalizing n q with
  | ind r ih =>
    by_cases hd : q = .done
    · exact ⟨n, le_rfl, hd ▸ h⟩
    · obtain ⟨k, q', hk, hq', hlt⟩ := lower hs hcall h hd
      obtain ⟨i, hi, hdone⟩ :=
        ih q'.rank (hr ▸ hlt) (fun i c hi => hcall i c (hk.trans hi)) hq' rfl
      exact ⟨i, hk.trans hi, hdone⟩

end Served

/-- **A run that is served comes to its end.** -/
theorem exists_done (hs : Served e run) (hx : (e.moment n).starts = true)
    (hrun : (e.moments n).countP Moment.starts = run) :
    ∃ k, n < k ∧ (e.state k).point? run = some .done := by
  obtain ⟨i, hi, hqueued⟩ := queued hs hx hrun
  obtain ⟨m, hcall⟩ := hs.terminates
  obtain ⟨q, hq⟩ := exists_point hqueued (le_max_left i m)
  obtain ⟨k, hk, hdone⟩ := exists_done_of_point hs
    (fun k c hk => hcall k c ((le_max_right i m).trans hk)) hq
  exact ⟨k, hi.trans_le ((le_max_left i m).trans hk), hdone⟩

/-! ## The result -/

/-- The run ends with the result in the step number `k`, and in no other. The supervisor is idle
then and can run again, and all observers come to be told. -/
structure EndsAt (e : Schedule setup) (run : RunId) (result : RunResult) (k : ℕ) : Prop where
  ended : (e.moment k).result? run = some result
  before : results run (e.moments k) = []
  after : ∀ j, k < j → results run (e.moments j) = [result]
  alive : (e.state (k + 1)).control.alive = false
  awaiting : (e.state (k + 1)).control.read.awaiting = false
  start : ∀ t args mode, (Moment.mk (e.state (k + 1)) (.act t (.start args mode))).starts = true
  done : ∃ j, k < j ∧ (e.state j).point? run = some .done

theorem results_succ (n : ℕ) : results run (e.moments (n + 1)) =
    ((e.moment n).result? run).toList ++ results run (e.moments n) :=
  results_cons run (e.moment n) (e.moments n)

theorem results_suffix (h : n ≤ k) : results run (e.moments n) <:+ results run (e.moments k) := by
  induction k, h using Nat.le_induction with
  | base => exact List.suffix_rfl
  | succ k _ ih =>
    rw [results_succ]
    exact ih.trans (List.suffix_append _ _)

theorem results_length_le (n : ℕ) : (results run (e.moments n)).length ≤ 1 := by
  rw [(e.trail n).results_cases.1]
  split_ifs <;> omega

theorem exists_result {result : RunResult} (h : results run (e.moments n) = [result]) :
    ∃ k, k < n ∧ (e.moment k).result? run = some result ∧ results run (e.moments k) = [] := by
  induction n with
  | zero => cases h
  | succ n ih =>
    rw [results_succ] at h
    cases hx : (e.moment n).result? run with
    | none =>
      rw [hx] at h
      obtain ⟨k, hk, hresult⟩ := ih h
      exact ⟨k, Nat.lt_succ_of_lt hk, hresult⟩
    | some result' =>
      rw [hx] at h
      obtain ⟨rfl, hnil⟩ := List.cons.inj h
      exact ⟨n, Nat.lt_succ_self n, hx, hnil⟩

theorem alive_of_result {result : RunResult} (h : (e.moment n).result? run = some result) :
    (e.state (n + 1)).control.alive = false := by
  obtain ⟨_, -, hbefore, hafter⟩ | ⟨hnone, -⟩ := @result_of_step _ _ _ _ _ run (e.step n)
  · by_cases hl : (e.label n).worker? = some run
    · obtain ⟨t, q, ht⟩ := System.turned_of_step hl (e.step n)
      obtain ⟨h1, h2⟩ := ht.phase?
      obtain ⟨-, -, halive⟩ | ⟨hover, -⟩ := ht.turn.alive_cases
      · exact halive
      · rw [Option.some.inj (h1.symm.trans hbefore), Option.some.inj (h2.symm.trans hafter)]
          at hover
        cases hover
    · obtain he | ⟨-, hnone, -⟩ := (e.stepped n).phase?_eq hl
      · cases hbefore.symm.trans (he ▸ hafter)
      · cases hbefore.symm.trans hnone
  · cases hnone.symm.trans h

/-- **A run that is served ends once, with one result.** -/
theorem exists_endsAt (hs : Served e run) (hx : (e.moment n).starts = true)
    (hrun : (e.moments n).countP Moment.starts = run) :
    ∃ k result, n < k ∧ e.EndsAt run result k := by
  obtain ⟨i, hi, hdone⟩ := exists_done hs hx hrun
  have hphase : (e.state i).phase? run = some .done := by
    rw [System.phase?, hdone]
    rfl
  obtain ⟨result, hresult⟩ : ∃ result, results run (e.moments i) = [result] := by
    rw [← List.length_eq_one_iff, (e.trail i).results_cases.1, hphase]
    rfl
  obtain ⟨k, hki, hended, hbefore⟩ := exists_result hresult
  have hafter : ∀ j, k < j → results run (e.moments j) = [result] := fun j hj => by
    have hone : results run (e.moments (k + 1)) = [result] := by
      rw [results_succ, hended, hbefore]
      rfl
    have hsuffix : results run (e.moments (k + 1)) <:+ results run (e.moments j) :=
      results_suffix (Nat.succ_le_of_lt hj)
    rw [hone] at hsuffix
    exact (hsuffix.eq_of_length_le (results_length_le j)).symm
  have halive := alive_of_result hended
  have hnk : n < k := by
    -- before its start the run is not in the pool
    by_contra hle
    have hone := hafter (n + 1) (by omega)
    have hlen := (@Trail.results_cases _ _ _ _ run _ (e.trail (n + 1))).1
    rw [hone] at hlen
    obtain ⟨htasks, -, -, -, hkept⟩ := tasks_of_starts hx
    have hnone : (e.state (n + 1)).phase? run = none := by
      rw [System.phase?, System.point?, hkept, ← hrun, htasks, List.getElem?_eq_none le_rfl]
      rfl
    rw [hnone] at hlen
    cases hlen
  refine ⟨k, result, hnk, ?_⟩
  exact
    { ended := hended
      before := hbefore
      after := hafter
      alive := halive
      awaiting := ((e.reachable (k + 1)).read_at_rest halive).1
      start := fun t args mode => by simp [Moment.starts, Control.start, halive]
      done := ⟨i, hki, hdone⟩ }

end Schedule

end RunControl
