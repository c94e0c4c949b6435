import RunControl.Proofs.Schedule
import RunControl.Proofs.Within

/-!
# Panics stay in their run, unless two meet

A panic of a callback ends at most the run. There is one exception: a read that a panic leaves tells
the observers that the run resumes, and a panic of one of these observers meets the first one.

* `Point.isTorn`, `Trail.torn`: while a panic leaves a read, it has come since the last call of the
  body;
* **`Trail.aborted_iff`**: the process ends exactly when two panics meet;
* **`isolated`**: a process that goes on brings every run that is served to its end, with one
  result;
* `aborted_twoPanics`: two panics that meet leave a run without a result.
-/

namespace RunControl

variable {κ : Type} {setup : Setup κ} {s s' s₁ : System κ} {p : List (Moment κ)} {l : Label κ}
  {run : RunId} {args : List String} {q q' : Point κ}

/-! ## A read that a panic leaves -/

/-- A panic is on its way through the read. -/
def ReadExit.isTorn : ReadExit κ → Bool
  | answer _ => false
  | unwind _ => true

/-- A panic is leaving a read, and the notification is the last one. -/
def AfterNotice.isTorn : AfterNotice κ → Bool
  | leaveRead exit => exit.isTorn
  | _ => false

/-- A panic is leaving a read. -/
def Point.isTorn : Point κ → Bool
  | closingRead exit => exit.isTorn
  | announcing _ after | telling _ _ after => after.isTorn
  | _ => false

/-- A callback has panicked since the last call of the body. -/
def Torn (run : RunId) (p : List (Moment κ)) : Prop :=
  ∃ m x m', p = m ++ x :: m' ∧ x.isPanic run = true ∧ m.any (Moment.isCall run) = false

theorem Torn.cons (h : Torn run p) {x : Moment κ} (hx : x.isCall run = false) :
    Torn run (x :: p) := by
  obtain ⟨m, y, m', rfl, hy, hm⟩ := h
  exact ⟨x :: m, y, m', rfl, hy, by rw [List.any_cons, hx, hm]; rfl⟩

theorem Torn.of_panicked {payload : Payload} (h : l = .panicked run payload) :
    Torn run (⟨s, l⟩ :: p) :=
  ⟨[], _, p, rfl, by rw [h]; simp [Moment.isPanic], rfl⟩

theorem Point.Next.isTorn (h : Next setup run l q q') (hq : q'.isTorn = true) :
    q.isTorn = true ∨ ∃ payload, l = .panicked run payload := by
  cases h with
  | skip hskips =>
    cases hskips with
    | telling => exact .inl hq
    | _ => cases hq
  | tell => exact .inl hq
  | @told _ _ after =>
    cases after with
    | leaveRead exit => cases exit <;> cases hq
    | _ => cases hq
  | @sleep _ w => cases w <;> cases hq
  | @close _ exit => exact .inl hq
  | tornNotice | tornRequest => exact .inr ⟨_, rfl⟩
  | _ => cases hq

theorem System.isTorn_call {state : κ} (h : s.point? run = some (.body state)) (c : Call κ) :
    ∃ q, (s.call setup run c).point? run = some q ∧ q.isTorn = false := by
  obtain ⟨s₁, q, hq, -, hcalled⟩ := point?_call setup h c
  exact ⟨q, hq, by cases hcalled <;> rfl⟩

/-- **A panic that leaves a read has come since the last call of the body.** -/
theorem Trail.torn {directory : String} (hp : Trail setup (System.initial setup directory) p s)
    (h : s.point? run = some q) (hq : q.isTorn = true) : Torn run p := by
  induction hp generalizing q with
  | nil => simp [System.point?, System.initial] at h
  | @cons p s s' l hp hs ih =>
    have hx (hc : ∀ c, l ≠ .call run c) : (Moment.mk s l).isCall run = false := by
      cases l <;> simp_all [Moment.isCall]
    cases System.comes_of_step hs h with
    | stays hc hbefore => exact (ih hbefore hq).cons (hx hc)
    | @wakes q₀ hc hbefore =>
      refine (ih hbefore ?_).cons (hx hc)
      cases q₀ <;> exact hq
    | joins => cases hq
    | calls _ hbody hcalled =>
      obtain ⟨q', hq', hnot⟩ := System.isTorn_call hbody _
      obtain rfl := Option.some.inj (hcalled.symm.trans hq')
      rw [hnot] at hq
      cases hq
    | turns _ hc hbefore _ hnext =>
      obtain htorn | ⟨payload, hpanic⟩ := hnext.isTorn hq
      · exact (ih hbefore htorn).cons (hx hc)
      · exact .of_panicked hpanic

/-! ## The end of the process -/

theorem System.Acts.aborted {t : Thread} {a : Action} (h : s.Acts t a s') :
    s'.aborted = s.aborted := by
  cases h <;> rfl

/-- Of the turns of a worker, only the one in which two panics meet ends the process. -/
theorem System.Takes.aborted (h : s.Takes setup run args l q s₁ q')
    (hq : s.point? run = some q) :
    s₁.aborted = s.aborted ∨ (Moment.mk s l).collides run = true := by
  by_cases hcall : ∃ c, l = .call run c
  · obtain ⟨c, rfl⟩ := hcall
    left
    cases h with
    | called hcalled => cases hcalled <;> rfl
  · exact (h.next (fun c he => hcall ⟨c, he⟩) hq).imp (·.1) (·.1)

theorem collides_of_aborted (h : s.step setup l = some s') (ha : s'.aborted = true) :
    ∃ run, (Moment.mk s l).collides run = true := by
  have hs := System.aborted_of_step h
  have hends : s'.aborted ≠ s.aborted := by simp [ha, hs]
  cases System.does_of_step h with
  | act _ hacts => exact absurd hacts.aborted hends
  | @complete _ owed => cases owed <;> exact absurd rfl hends
  | wake => exact absurd rfl hends
  | turn _ hfree htakes =>
    obtain hgoes | hmeet := htakes.aborted
      (System.point?_eq_some_iff.2 ⟨_, (System.freeTask?_eq_some_iff.1 hfree).2, rfl⟩)
    · exact absurd hgoes hends
    · exact ⟨_, hmeet⟩

theorem collides_cases (h : (Moment.mk s l).collides run = true) :
    ∃ payload notice o queue message, l = .panicked run payload ∧
      s.point? run = some (.telling notice (o :: queue) (.leaveRead (.unwind message))) := by
  unfold Moment.collides at h
  split at h
  · rename_i r payload notice o queue message hl hq
    obtain rfl : r = run := by simpa using h
    exact ⟨payload, notice, o, queue, message, hl, hq⟩
  · cases h

theorem aborted_of_collides (h : s.step setup l = some s')
    (hx : (Moment.mk s l).collides run = true) : s'.aborted = true := by
  obtain ⟨payload, notice, o, queue, message, rfl, hq⟩ := collides_cases hx
  rw [System.step_turn rfl (System.aborted_of_step h)] at h
  obtain ⟨task, htask, h⟩ := Option.bind_eq_some_iff.1 h
  obtain ⟨task', htask', hpoint⟩ := System.point?_eq_some_iff.1 hq
  obtain rfl := Option.some.inj ((System.freeTask?_eq_some_iff.1 htask).2.symm.trans htask')
  rw [System.turn, hpoint] at h
  rw [← Option.some.inj h]

/-- **The process ends exactly when a panic meets another one that has come since the last call of
the body and is leaving a read.** -/
theorem Trail.aborted_iff {directory : String}
    (hp : Trail setup (System.initial setup directory) p s) :
    s.aborted = true ↔
      ∃ run x m, p = x :: m ∧ x.collides run = true ∧ Torn run m := by
  cases hp with
  | nil => simp [System.initial]
  | @cons m s₀ _ l hp hs =>
    refine ⟨fun ha => ?_, ?_⟩
    · obtain ⟨run, hx⟩ := collides_of_aborted hs ha
      obtain ⟨payload, notice, o, queue, message, -, hq⟩ := collides_cases hx
      exact ⟨run, _, m, rfl, hx, hp.torn hq rfl⟩
    · rintro ⟨run, x, m', he, hx, -⟩
      obtain ⟨rfl, rfl⟩ := List.cons.inj he
      exact aborted_of_collides hs hx

/-! ## Isolation -/

/-- What panics can do, whatever callbacks panic and how often. The process ends only where two
panics meet: one that is leaving a read, since the last call of the body, and one of an observer
that is told of the end of the read. While the process goes on, a run whose start has been accepted
and that is served ends once, with one result, and leaves the supervisor idle and able to run again.
-/
structure Isolated (setup : Setup κ) : Prop where
  aborts : ∀ directory p s, Trail setup (System.initial setup directory) p s →
    (s.aborted = true ↔ ∃ run x m, p = x :: m ∧ x.collides run = true ∧ Torn run m)
  ends : ∀ (e : Schedule setup) run n, (e.moment n).starts = true →
    (e.moments n).countP Moment.starts = run → Served e run →
    ∃ k result, n < k ∧ e.EndsAt run result k

/-- **Every run that is served ends, unless two panics meet.** -/
theorem isolated (setup : Setup κ) : Isolated setup where
  aborts _ _ _ hp := hp.aborted_iff
  ends _ _ _ hx hrun hs := Schedule.exists_endsAt hs hx hrun

/-! ## Two panics that meet -/

/-- A provider panics, and then the observer that is told that the run resumes. -/
def twoPanics : List (Label Unit) :=
  [.act (.controller 0) (.addObserver "o"), .act (.controller 0) (.start [] .stopped),
    .complete (.controller 0), .advance 0 0, .advance 0 0, .returned 0, .advance 0 0, .advance 0 0,
    .call 0 (.read .integer fun _ => ()), .advance 0 0, .panicked 0 (.text "provider failed"),
    .advance 0 0, .advance 0 0, .panicked 0 (.text "observer failed")]

theorem aborted_twoPanics :
    let setup : Setup Unit := Setup.bare ()
    let s₀ := System.initial setup ""
    ∃ s, s₀.steps setup twoPanics = some s ∧ s.aborted = true ∧ s.control.alive = true ∧
      results 0 (s₀.moments setup twoPanics) = [] ∧ ∀ l, s.step setup l = none :=
  ⟨_, rfl, rfl, rfl, rfl, System.step_of_aborted rfl⟩

/-! ## A run with panics that comes to its end -/

/-- The provider panics and so does the observer that is told of the end. -/
def twoPanicsApart : List (Label Unit) :=
  twoPanics.dropLast ++ [.returned 0, .advance 0 0, .advance 0 0, .advance 0 0, .advance 0 0,
    .advance 0 0, .advance 0 0, .panicked 0 (.text "observer failed"), .advance 0 0]

/-- The end of these steps. -/
def apartEnd : System Unit :=
  { System.initial (Setup.bare ()) "" with
    control := { Control.initial 3 with read := ⟨false, false, 1, .pending⟩ }
    snapshot := Snapshot.empty.reset
    tasks := [⟨[], .done⟩]
    handles := [1]
    executions := 1 }

theorem steps_twoPanicsApart :
    (System.initial (Setup.bare ()) "").steps (Setup.bare ()) twoPanicsApart = some apartEnd := rfl

/-- These steps, and then for ever a call that changes nothing. -/
def apartSchedule : Schedule (Setup.bare ()) :=
  .ofSteps steps_twoPanicsApart
    (show apartEnd.step _ (.act (.controller 0) (.setInput 0)) = some apartEnd from rfl)

theorem apartSchedule_before : ∀ n < 22,
    (apartSchedule.state n).inFlight.map Prod.fst =
        (if n = 2 then [Thread.controller 0] else []) ∧
      (((apartSchedule.state n).point? 0).bind Point.wait?).isNone = true := by
  decide +kernel

theorem apartSchedule_after {n : ℕ} (hn : 22 ≤ n) : apartSchedule.state n = apartEnd :=
  Schedule.ofSteps_state hn

theorem served_apartSchedule : Served apartSchedule 0 where
  completes n t hb := by
    obtain ⟨⟨u, owed⟩, hmem, ht⟩ := List.any_eq_true.1 hb
    obtain rfl : u = t := by simpa using ht
    have hcaller : u ∈ (apartSchedule.state n).inFlight.map Prod.fst :=
      List.mem_map.2 ⟨_, hmem, rfl⟩
    obtain hlt | hle := Nat.lt_or_ge n 22
    · rw [(apartSchedule_before n hlt).1] at hcaller
      split_ifs at hcaller with hn
      · obtain rfl := List.mem_singleton.1 hcaller
        exact ⟨2, hn.le, rfl⟩
      · cases hcaller
    · rw [apartSchedule_after hle] at hcaller
      cases hcaller
  turns n q hq _ hd := by
    obtain hlt | hle := Nat.lt_or_ge n 22
    · exact ⟨21, Nat.le_of_lt_succ hlt, rfl⟩
    · rw [apartSchedule_after hle] at hq
      exact absurd (Option.some.inj hq).symm hd
  terminates := by
    refine ⟨22, fun k c hk h => ?_⟩
    have hidle : apartSchedule.label k = .act (.controller 0) (.setInput 0) := by
      change (twoPanicsApart[k]?).getD _ = _
      rw [List.getElem?_eq_none hk, Option.getD_none]
    cases hidle.symm.trans h
  answered n w hw := by
    have hwait : ((apartSchedule.state n).point? 0).bind Point.wait? = some w := by
      rcases hw with h | h <;> rw [h] <;> simp
    obtain hlt | hle := Nat.lt_or_ge n 22
    · have hnone := (apartSchedule_before n hlt).2
      rw [hwait] at hnone
      cases hnone
    · rw [apartSchedule_after hle] at hwait
      cases hwait

theorem isolated_apartSchedule :
    (apartSchedule.moment 1).starts = true ∧ (apartSchedule.moment 10).isPanic 0 = true ∧
      (apartSchedule.moment 20).isPanic 0 = true ∧ Served apartSchedule 0 ∧
      ∃ k result, 1 < k ∧ apartSchedule.EndsAt 0 result k :=
  ⟨rfl, rfl, rfl, served_apartSchedule,
    (isolated (Setup.bare ())).ends apartSchedule 0 1 rfl rfl served_apartSchedule⟩

end RunControl
