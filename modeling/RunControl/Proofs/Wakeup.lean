import RunControl.Proofs.OpenRead

/-!
# No lost wake-up

A worker sleeps on one of two conditions. Whoever makes the condition of a sleeper false notifies
after it has released the lock, so a sleeper that should not sleep is about to be woken.

* `Acted.blocks`: a call that ends a wait owes a notification;
* `Turn.wait_cases`: a worker that waits goes to sleep or goes on, as its condition says;
* `asleep_of_step`, `tested_of_step`: what a step does to a sleeper, and to a test;
* **`Reachable.wakeful`**: no wake-up is lost, and none ends a wait early.
-/

namespace RunControl

variable {κ : Type} {setup : Setup κ} {s s' : System κ} {l : Label κ} {run : RunId} {w : Wait κ}

section Step

variable {c c' : Control} {hs hs' : List UInt64} {q q' : Point κ} {a : Action}
  {owed : Option Pending}

/-- During a run, a call that makes a condition false owes a notification. -/
theorem Acted.blocks (h : Acted c hs a c' hs' owed) (ha : c.alive = true)
    (hb : c.blocks w = true) : c'.blocks w = true ∨ owed = some .notify := by
  cases h with
  | start hc =>
    rw [(Control.start_eq_some_iff.1 hc).1] at ha
    cases ha
  | resume | interrupt | settle => exact .inr rfl
  | late | other => exact .inl hb
  | activate => exact .inl (by cases w <;> exact hb)

/-- A worker that waits takes a turn only to test its condition: it goes to sleep while the
condition holds, and leaves the wait when it does not. -/
theorem Turn.wait_cases (h : Turn run l c hs q c' hs' q') (hq : q.wait? = some w) :
    q = w.test ∧ (∃ elapsed, l = .advance run elapsed) ∧
      (c.blocks w = true ∧ q' = w.sleep ∧ c' = c ∨ c.blocks w = false ∧ q'.wait? = none) := by
  cases h with
  | pass hp =>
    rw [hp.wait?] at hq
    cases hq
  | @park _ _ v elapsed hb =>
    rw [Point.wait?_test] at hq
    obtain rfl := Option.some.inj hq
    exact ⟨rfl, ⟨elapsed, rfl⟩, .inl ⟨hb, rfl, rfl⟩⟩
  | @release _ _ hold elapsed hb =>
    obtain rfl := Option.some.inj hq
    exact ⟨rfl, ⟨elapsed, rfl⟩, .inr ⟨hb, rfl⟩⟩
  | @take _ _ _ ask elapsed hp hb =>
    rcases hp with rfl | rfl
    · cases hq
    · obtain rfl := Option.some.inj hq
      exact ⟨rfl, ⟨elapsed, rfl⟩, .inr ⟨hb, rfl⟩⟩
  | unwind _ hw =>
    rw [hw] at hq
    cases hq
  | _ => cases hq

theorem Turn.blocks_of_sleep (h : Turn run l c hs q c' hs' w.sleep) :
    c'.blocks w = true := by
  generalize hq' : w.sleep = q' at h
  have hp' : q'.parked? = some w := hq' ▸ Point.parked?_sleep w
  cases h with
  | pass hp =>
    rw [hp.parked?] at hp'
    cases hp'
  | park hb =>
    rw [Point.parked?_sleep] at hp'
    obtain rfl := Option.some.inj hp'
    exact hb
  | _ => cases hp'

end Step

/-! ## Sleepers -/

theorem System.phase?_sleep (h : s.point? run = some w.sleep) :
    ∃ f, s.phase? run = some f ∧ f.isOver = false := by
  refine ⟨w.sleep.phase, by rw [System.phase?, h]; rfl, ?_⟩
  cases w <;> rfl

theorem Orderly.not_busy_sleep (ho : Orderly s) (h : s.point? run = some w.sleep) :
    s.isBusy (.worker run) = false :=
  ho.not_busy h (by cases w <;> rfl)

/-- Whoever sleeps has reason to, or is about to be woken. -/
def System.Guarded (s : System κ) : Prop :=
  ∀ run w, s.point? run = some (Wait.sleep w) →
    s.control.blocks w = true ∨ ∃ t, (t, .notify) ∈ s.inFlight

theorem System.Guarded.initial (directory : String) :
    (System.initial setup directory).Guarded := by
  intro run w h
  simp [System.point?, System.initial] at h

theorem System.Guarded.step_asleep (hg : s.Guarded) (ho : Orderly s) (h : System.Stepped s s' l)
    (hl : l.worker? ≠ some run) (hp : s.point? run = some w.sleep)
    (hp' : s'.point? run = some w.sleep) :
    s'.control.blocks w = true ∨ ∃ t, (t, .notify) ∈ s'.inFlight := by
  obtain ⟨f, hf, halive⟩ := System.phase?_sleep hp
  cases h with
  | act _ ha _ hi =>
    rw [hi]
    obtain hb | ⟨t, ht⟩ := hg run w hp
    · obtain hb | rfl := ha.blocks (ho.alive_of_phase hf halive) hb
      · exact .inl hb
      · exact .inr ⟨_, List.mem_append_right _ (List.mem_singleton_self _)⟩
    · exact .inr ⟨t, List.mem_append_left _ ht⟩
  | notify _ _ _ ht _ =>
    -- nobody sleeps any more
    obtain ⟨t', ht', hq⟩ := System.point?_eq_some_iff.1 hp'
    rw [ht, List.getElem?_map] at ht'
    obtain ⟨t₀, -, rfl⟩ := Option.map_eq_some_iff.1 ht'
    have hnone : t₀.point.wake.parked? = none := by cases t₀.point <;> rfl
    rw [show t₀.point.wake = w.sleep from hq, Point.parked?_sleep] at hnone
    cases hnone
  | submit hmem =>
    -- no start is on its way while a run is alive
    have howed : 0 < s.owed := List.countP_pos_iff.2 ⟨_, hmem, rfl⟩
    rw [ho.owed_eq_zero hf halive] at howed
    cases howed
  | wake _ _ hc _ _ hi =>
    rw [hc, hi]
    exact hg run w hp
  | @turn r _ t q hr ht =>
    -- the other run is over
    have hover : t.point.phase.isOver = true := by
      by_contra hn
      have he := ho.eq_of_phase ht.phase?.1 (by simpa using hn) hf halive
      exact hl (he ▸ hr)
    rw [ht.inFlight, (ht.turn.of_isOver hover).1]
    exact hg run w hp

theorem System.Guarded.step (hg : s.Guarded) (ho : Orderly s) (h : s.step setup l = some s') :
    s'.Guarded := by
  intro run w hp'
  have hst := System.stepped_of_step h
  by_cases hl : l.worker? = some run
  · obtain ⟨t, q, ht⟩ := System.turned_of_step hl h
    obtain rfl := Option.some.inj (ht.point?.2.symm.trans hp')
    exact .inl ht.turn.blocks_of_sleep
  · obtain he | ⟨-, -, hqueued⟩ | ⟨he, -⟩ := hst.point?_cases hl
    · exact hg.step_asleep ho hst hl (he ▸ hp') hp'
    · rw [hqueued] at hp'
      cases w <;> cases hp'
    · rw [he] at hp'
      obtain ⟨q, -, hq⟩ := Option.map_eq_some_iff.1 hp'
      cases q <;> cases w <;> cases hq

theorem Reachable.guarded (hr : Reachable setup s) : s.Guarded := by
  have h : Orderly s ∧ s.Guarded :=
    hr.invariant (I := fun s => Orderly s ∧ s.Guarded)
      (fun directory => ⟨.initial directory, .initial directory⟩)
      fun ⟨ho, hg⟩ h => ⟨ho.step h, hg.step ho h⟩
  exact h.2

/-! ## Waking up -/

/-- What holds of the sleepers of a supervisor in the state `s`. If one sleeps although its
condition is false, another thread has released the lock and is about to notify; it can, and then
nobody sleeps. A sleeper moves only when it is notified or wakes up for no reason, and then it is
about to test its condition again. The test ends the wait exactly when the condition is false, and
otherwise changes nothing but that the worker sleeps, as if it had not woken up. -/
structure Wakeful (setup : Setup κ) (s : System κ) : Prop where
  not_lost : ∀ run w, s.point? run = some (Wait.sleep w) → s.control.blocks w = false →
    ∃ t, t ≠ .worker run ∧ (t, .notify) ∈ s.inFlight
  notified : ∀ t, (t, .notify) ∈ s.inFlight → s.aborted = false →
    ∃ s', s.step setup (.complete t) = some s' ∧ ∀ run w, s'.point? run ≠ some (Wait.sleep w)
  asleep : ∀ run w l s', s.point? run = some (Wait.sleep w) → s.step setup l = some s' →
    s'.point? run = s.point? run ∨ s'.point? run = some w.test ∧
      (l = .wake run ∨ ∃ t, l = .complete t ∧ (t, .notify) ∈ s.inFlight)
  tested : ∀ run w l s', s.point? run = some (Wait.test w) → s.step setup l = some s' →
    s'.point? run = s.point? run ∨ (∃ elapsed, l = .advance run elapsed) ∧
      if s.control.blocks w then s'.point? run = some w.sleep ∧ s'.control = s.control
      else ∀ v, s'.point? run ≠ some (Wait.test v) ∧ s'.point? run ≠ some (Wait.sleep v)
  spurious : ∀ run w, s.point? run = some (Wait.sleep w) → s.control.blocks w = true →
    s.aborted = false → ∃ s', s.step setup (.wake run) = some s' ∧
      ∀ elapsed, s'.step setup (.advance run elapsed) = some s

theorem Orderly.find?_inFlight (ho : Orderly s) {t : Thread} {q : Pending}
    (h : (t, q) ∈ s.inFlight) : s.inFlight.find? (fun p => p.1 = t) = some (t, q) := by
  have hk := ho.keys
  generalize s.inFlight = ps at h hk
  induction ps with
  | nil => cases h
  | cons p ps ih =>
    rw [List.map_cons, List.nodup_cons] at hk
    rcases List.mem_cons.1 h with rfl | h
    · simp
    · have hne : p.1 ≠ t := fun he => hk.1 (List.mem_map.2 ⟨_, h, he.symm⟩)
      rw [List.find?_cons_of_neg (by simpa using hne), ih h hk.2]

theorem Orderly.complete_notify (ho : Orderly s) {t : Thread} (h : (t, .notify) ∈ s.inFlight)
    (ha : s.aborted = false) : ∃ s', s.step setup (.complete t) = some s' ∧
      ∀ run, s'.point? run = (s.point? run).map Point.wake := by
  refine ⟨_, by simp only [System.step, ha, System.complete, ho.find?_inFlight h]; rfl,
    fun run => ?_⟩
  simp only [System.finishCall, System.point?, List.getElem?_map]
  cases s.tasks[run]? <;> rfl

theorem Point.wake_ne_sleep (q : Point κ) (w : Wait κ) : q.wake ≠ w.sleep := by
  intro h
  cases q <;> cases w <;> cases h

theorem step_wake (ha : s.aborted = false) (h : s.point? run = some w.sleep) :
    s.step setup (.wake run) = some (s.goto run w.test) := by
  obtain ⟨t, ht, hp⟩ := System.point?_eq_some_iff.1 h
  simp [System.step, ha, ht, hp]

theorem advance_test {args : List String} {elapsed : Nat} (hb : s.control.blocks w = true) :
    s.advance setup run args elapsed w.test = some (s.goto run w.sleep) := by
  cases w with
  | resumption hold => exact if_pos hb
  | answer ask => exact if_pos hb

/-- A sleeper moves only by waking up. -/
theorem asleep_of_step (hp : s.point? run = some w.sleep) (h : s.step setup l = some s') :
    s'.point? run = s.point? run ∨ s'.point? run = some w.test ∧
      (l = .wake run ∨ ∃ t, l = .complete t ∧ (t, .notify) ∈ s.inFlight) := by
  by_cases hl : l.worker? = some run
  · -- a sleeper takes no turn
    obtain ⟨t, q, ht⟩ := System.turned_of_step hl h
    have hpoint : t.point = w.sleep := Option.some.inj (ht.point?.1.symm.trans hp)
    obtain ⟨htest, -⟩ := ht.turn.wait_cases (w := w) (by rw [hpoint, Point.wait?_sleep])
    have hnone := Point.parked?_test w
    rw [← htest, hpoint, Point.parked?_sleep] at hnone
    cases hnone
  · obtain he | ⟨-, hnone, -⟩ | ⟨he, hwhy⟩ := (System.stepped_of_step h).point?_cases hl
    · exact .inl he
    · rw [hnone] at hp
      cases hp
    · exact .inr ⟨by rw [he, hp, Option.map_some, Point.wake_sleep], hwhy⟩

/-- A worker that tests its condition goes to sleep while it holds, and leaves the wait when it
does not. -/
theorem tested_of_step (hp : s.point? run = some w.test) (h : s.step setup l = some s') :
    s'.point? run = s.point? run ∨ (∃ elapsed, l = .advance run elapsed) ∧
      if s.control.blocks w then s'.point? run = some w.sleep ∧ s'.control = s.control
      else ∀ v, s'.point? run ≠ some (Wait.test v) ∧ s'.point? run ≠ some (Wait.sleep v) := by
  by_cases hl : l.worker? = some run
  · obtain ⟨t, q, ht⟩ := System.turned_of_step hl h
    have hpoint : t.point = w.test := Option.some.inj (ht.point?.1.symm.trans hp)
    obtain ⟨-, hadvance, hcases⟩ := ht.turn.wait_cases (w := w) (by rw [hpoint, Point.wait?_test])
    refine .inr ⟨hadvance, ?_⟩
    rw [ht.point?.2]
    obtain ⟨hb, rfl, hc⟩ | ⟨hb, hleft⟩ := hcases
    · rw [if_pos hb]
      exact ⟨rfl, hc⟩
    · rw [if_neg (by simp [hb])]
      refine fun v => ⟨?_, ?_⟩
      · rintro ⟨⟩
        simp at hleft
      · rintro ⟨⟩
        simp at hleft
  · obtain he | ⟨-, hnone, -⟩ | ⟨he, -⟩ := (System.stepped_of_step h).point?_cases hl
    · exact .inl he
    · rw [hnone] at hp
      cases hp
    · refine .inl ?_
      rw [he, hp]
      cases w <;> rfl

/-- A worker that wakes up for no reason goes back to sleep as if nothing had been. -/
theorem Orderly.spurious_wake (ho : Orderly s) (hp : s.point? run = some w.sleep)
    (hb : s.control.blocks w = true) (ha : s.aborted = false) :
    ∃ s', s.step setup (.wake run) = some s' ∧
      ∀ elapsed, s'.step setup (.advance run elapsed) = some s := by
  have hs : s.step setup (.wake run) = some (s.goto run w.test) := step_wake ha hp
  refine ⟨_, hs, fun elapsed => ?_⟩
  obtain ⟨t, ht, hpoint⟩ := System.point?_eq_some_iff.1 hp
  obtain ⟨args, hstep⟩ := (ho.step hs).step_advance (System.point?_goto hp)
    (by cases w <;> rfl) ha elapsed
  have hb' : (s.goto run w.test).control.blocks w = true := hb
  rw [hstep, advance_test hb', System.goto_goto, ← hpoint, System.goto_point ht]

/-- **No wake-up is lost, and none ends a wait early.** -/
theorem Reachable.wakeful (hr : Reachable setup s) : Wakeful setup s := by
  have ho := hr.orderly
  refine ⟨fun run w h hb => ?not_lost, fun t h ha => ?notified,
    fun run w l s' h hs => asleep_of_step h hs, fun run w l s' h hs => tested_of_step h hs,
    fun run w h hb ha => ho.spurious_wake h hb ha⟩
  case not_lost =>
    obtain hb' | ⟨t, ht⟩ := hr.guarded run w h
    · rw [hb] at hb'
      cases hb'
    · refine ⟨t, ?_, ht⟩
      rintro rfl
      exact System.isBusy_eq_false_iff.1 (ho.not_busy_sleep h) _ ht
  case notified =>
    obtain ⟨s', hs, hwake⟩ := ho.complete_notify h ha
    refine ⟨s', hs, fun run w hw => ?_⟩
    rw [hwake] at hw
    obtain ⟨q, -, hq⟩ := Option.map_eq_some_iff.1 hw
    exact q.wake_ne_sleep w hq

/-- A pause, and a resume whose notification is on its way. -/
def resumedPause : List (Label Unit) :=
  toBody .stepInto ++ [.call 0 (.pausePoint ⟨1, 1⟩ fun _ => ()), .advance 0 0, .advance 0 0,
    .advance 0 0, .advance 0 0, .advance 0 0, .act (.controller 1) (.resume .stopped)]

theorem wakeful_resumedPause :
    ∃ s h, (System.initial (Setup.bare ()) "").steps (Setup.bare ()) resumedPause = some s ∧
      s.point? 0 = some (.held h) ∧ s.control.isHeld h.generation = false ∧
      Wakeful (Setup.bare ()) s :=
  ⟨_, _, rfl, rfl, rfl, Reachable.wakeful (Trail.reachable (trail_of_steps
    (show (System.initial (Setup.bare ()) "").steps (Setup.bare ()) resumedPause = some _ from
      rfl)))⟩

end RunControl
