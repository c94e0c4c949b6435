import RunControl.Proofs.Callbacks

/-!
# Which run an observer belongs to

An observer belongs to the run that next takes the observers off the roster. Whether a run is
running does not decide it: an interrupted run is not running and has yet to take them, and a run
that has just taken them is still running.

* `Attending`, `Attending.step`, **`Trail.attending`**: an observer whom nobody removes is on the
  roster until the run takes everybody off it, and is then told of the end once;
* **`enrolment`**: what an observer who is added is told of the runs that have been started;
* **`misjudged_by_isRunning`**: two observers for whom it matters.
-/

namespace RunControl

variable {κ : Type}

namespace System

/-- The run has taken its observers off the roster. -/
def isDrained (s : System κ) (run : RunId) : Bool := (s.point? run).any Point.isDrained

/-- The end of the run, if the observer is on the list of the run and has yet to be told. -/
def farewell (s : System κ) (run : RunId) (o : ObserverId) : List Notice :=
  ((s.point? run).map (Point.farewell o)).getD []

end System

variable {setup : Setup κ} {s s₁ s' : System κ} {m p : List (Moment κ)} {l : Label κ} {run : RunId}
  {q q' : Point κ} {o : ObserverId}

theorem System.isDrained_eq_false_iff :
    s.isDrained run = false ↔ ∀ q, s.point? run = some q → q.isDrained = false := by
  unfold System.isDrained
  cases s.point? run <;> simp

theorem System.isDrained_eq_true_iff :
    s.isDrained run = true ↔ ∃ q, s.point? run = some q ∧ q.isDrained = true := by
  unfold System.isDrained
  cases s.point? run <;> simp

theorem Point.isDrained_of_isOver (h : q.phase.isOver = true) : q.isDrained = true := by
  by_contra hd
  rw [isOver_eq_false_of_isDrained (by simpa using hd)] at h
  cases h

/-! ## From the roster to the list -/

theorem Point.Next.draining (h : Next setup run l q q') (hd : q.isDrained = false)
    (hd' : q'.isDrained = true) :
    ∃ elapsed result watchers, l = .advance run elapsed ∧ q = .draining result ∧
      q' = .finishing result watchers := by
  cases h with
  | skip hskips =>
    cases hskips with
    | ending => cases hd
    | telling | initializing | finalizing => cases hd'
  | drained => exact ⟨_, _, _, rfl, rfl, rfl⟩
  | finished | retired => cases hd
  | @told _ _ after =>
    cases after with
    | leaveRead exit => cases exit <;> cases hd'
    | _ => cases hd'
  | @sleep _ w => cases w <;> cases hd'
  | @tornNotice _ _ _ after _ htorn =>
    cases after with
    | leaveRead exit =>
      cases exit <;> cases htorn
      cases hd'
    | _ =>
      cases htorn
      cases hd'
  | _ => cases hd'

theorem System.finishing_of_step (hs : s.step setup l = some s') (hd : s.isDrained run = false)
    (hd' : s'.isDrained run = true) :
    s'.aborted = false ∧ ∃ elapsed result, l = .advance run elapsed ∧
      s.point? run = some (.draining result) ∧
        s'.point? run = some (.finishing result s.roster.members) := by
  rw [isDrained_eq_false_iff] at hd
  obtain ⟨q', hq', hdrained⟩ := isDrained_eq_true_iff.1 hd'
  cases comes_of_step hs hq' with
  | stays _ hq => cases hdrained.symm.trans (hd q' hq)
  | wakes _ hq =>
    rw [Point.isDrained_wake, hd _ hq] at hdrained
    cases hdrained
  | joins => cases hdrained
  | calls _ hbody hcalled =>
    obtain ⟨q₁, hq₁, -, -, hno⟩ := quiet_of_call hbody
    obtain rfl := Option.some.inj (hq₁.symm.trans hcalled)
    cases hdrained.symm.trans hno
  | turns hl _ hq ha hnext =>
    obtain ⟨elapsed, result, _, rfl, rfl, rfl⟩ := hnext.draining (hd _ hq) hdrained
    exact ⟨ha, elapsed, result, rfl, hq, (finishing_of_draining hq hs).2⟩

theorem Trail.results_kept {directory : String} {x : Moment κ} {result : RunResult}
    (hp : Trail setup (System.initial setup directory) (x :: p) s)
    (h : results run p = [result]) : results run (x :: p) = [result] := by
  have hlen : (results run (x :: p)).length = _ := hp.results_cases.1
  rw [results_cons, h] at hlen ⊢
  cases hx : x.result? run with
  | none => rfl
  | some r =>
    rw [hx] at hlen
    split_ifs at hlen <;> cases hlen

/-- Where an observer is whom the run is to tell of its end: on the roster, or taken off it and told
of the end, or left to be. -/
inductive Attending (setup : Setup κ) (run : RunId) (o : ObserverId) (p : List (Moment κ))
    (s : System κ) : Prop
  | registered : s.isDrained run = false → o ∈ s.roster.members → Attending setup run o p s
  | taken {q : Point κ} {result : RunResult} :
    s.point? run = some q → q.isDrained = true →
    farewells setup run o p ++ (q.farewell o).filterMap Notice.result? = [result] →
    (results run p = [result] ∨ ∃ watchers, q = .finishing result watchers) →
      Attending setup run o p s

namespace Attending

variable {directory : String}

/-- On the roster or on the list of a run, an observer is on its way to be told of its end. -/
theorem step (hp : Trail setup (System.initial setup directory) p s)
    (hcount : run < p.countP Moment.starts) (h : Attending setup run o p s)
    (hs : s.step setup l = some s') (hx : (Moment.mk s l).removes o = false) :
    Attending setup run o (⟨s, l⟩ :: p) s' := by
  cases h with
  | registered hd hmem =>
    cases hd' : s'.isDrained run with
    | false =>
      exact .registered hd'
        (hp.member_of_step hs hcount (System.isDrained_eq_false_iff.1 hd') hx hmem)
    | true =>
      obtain ⟨ha, elapsed, result, rfl, -, hq'⟩ := System.finishing_of_step hs hd hd'
      refine .taken hq' rfl ?_ (.inr ⟨_, rfl⟩)
      have hsame : tellings setup run o (⟨s, .advance run elapsed⟩ :: p) = tellings setup run o p :=
        (tellings_of_worker hs rfl hq' ha).trans (List.append_nil _)
      rw [farewells_of_tellings hsame,
        hp.farewells_of_undrained (System.isDrained_eq_false_iff.1 hd), Point.farewell,
        if_pos hmem]
      rfl
  | @taken q result hq hd hleft hresult =>
    obtain ⟨hl, hq'⟩ | ⟨hl, ha, q', hq', hdeparts⟩ := System.drained_of_step hq hd hs
    · refine .taken hq' hd ?_ (hresult.imp_left (hp.cons hs).results_kept)
      rw [farewells_of_tellings (tellings_of_other hl), hleft]
    · have hnodup := hp.reachable.nodup_queue run q hq
      rw [hdeparts.farewell hnodup, List.filterMap_append, ← List.append_assoc] at hleft
      have hend : results run (⟨s, l⟩ :: p) = [result] := by
        obtain hresult | ⟨watchers, rfl⟩ := hresult
        · exact (hp.cons hs).results_kept hresult
        · cases hdeparts
          exact (hp.cons hs).results_cases.2 result (by rw [System.phase?, hq']; rfl)
      refine .taken hq' hdeparts.isDrained ?_ (.inl hend)
      rw [farewells, tellings_of_worker hs hl hq' ha, List.filterMap_append, ← farewells, hleft]

theorem farewells_length_le (hp : Trail setup (System.initial setup directory) p s)
    (h : Attending setup run o p s) : (farewells setup run o p).length ≤ 1 := by
  cases h with
  | registered hd =>
    rw [hp.farewells_of_undrained (System.isDrained_eq_false_iff.1 hd)]
    exact Nat.zero_le 1
  | taken _ _ hleft _ =>
    have hlen := congrArg List.length hleft
    rw [List.length_append, List.length_singleton] at hlen
    omega

/-- When all observers have been told of the end of the run, this one has been told, once. -/
theorem farewells_eq (h : Attending setup run o p s) (hq : s.point? run = some .done) :
    ∃ result, results run p = [result] ∧ farewells setup run o p = [result] := by
  cases h with
  | registered hd =>
    cases System.isDrained_eq_false_iff.1 hd _ hq
  | taken hq' _ hleft hresult =>
    obtain rfl := Option.some.inj (hq.symm.trans hq')
    obtain hresult | ⟨_, ⟨⟩⟩ := hresult
    exact ⟨_, hresult, by simpa [Point.farewell] using hleft⟩

end Attending

/-- **An observer whom nobody removes is on its way to be told of the end of a run**, from the
moment in which it is on the roster. -/
theorem Trail.attending {directory : String}
    (hp : Trail setup (System.initial setup directory) p s)
    (hcount : run < p.countP Moment.starts) (h : Attending setup run o p s)
    (hm : Trail setup s m s') (hkept : m.any (Moment.removes o) = false) :
    Attending setup run o (m ++ p) s' := by
  induction hm with
  | nil => exact h
  | @cons m s₁ s' l hm hs ih =>
    rw [List.any_cons, Bool.or_eq_false_iff] at hkept
    have hcount' : run < (m ++ p).countP Moment.starts := by
      rw [List.countP_append]
      exact hcount.trans_le (Nat.le_add_left _ _)
    exact (ih hkept.2).step (hp.append hm) hcount' hs hkept.1

/-! ## In a schedule -/

namespace Schedule

variable {e : Schedule setup} {n k : ℕ}

theorem exists_start {r : ℕ} (h : r < (e.moments n).countP Moment.starts) :
    ∃ i, (e.moment i).starts = true ∧ (e.moments i).countP Moment.starts = r := by
  induction n with
  | zero => cases h
  | succ n ih =>
    by_cases hbefore : r < (e.moments n).countP Moment.starts
    · exact ih hbefore
    · rw [moments, List.countP_cons] at h
      split_ifs at h with hx
      · exact ⟨n, hx, by omega⟩
      · omega

theorem done_stays (h : (e.state n).point? run = some .done) (hk : n ≤ k) :
    (e.state k).point? run = some .done := by
  induction k, hk using Nat.le_induction with
  | base => exact h
  | succ k _ ih =>
    obtain ⟨-, hq⟩ | ⟨-, -, q, -, hdeparts⟩ := System.drained_of_step ih rfl (e.step k)
    · exact hq
    · cases hdeparts

/-- An observer who attends a served run is told of its end, once and for all. -/
theorem exists_farewell {o : ObserverId} (hs : Served e run)
    (hcount : run < (e.moments n).countP Moment.starts)
    (ha : Attending setup run o (e.moments n) (e.state n))
    (hkept : ∀ i, n ≤ i → (e.moment i).removes o = false) :
    ∃ k result, n ≤ k ∧ results run (e.moments k) = [result] ∧
      ∀ j, k ≤ j → farewells setup run o (e.moments j) = [result] := by
  obtain ⟨i, hx, hrun⟩ := exists_start hcount
  obtain ⟨k, -, hdone⟩ := exists_done hs hx hrun
  have hfarewells : ∀ j, max k n ≤ j → ∃ result, results run (e.moments j) = [result] ∧
      farewells setup run o (e.moments j) = [result] := fun j hj => by
    obtain ⟨d, rfl⟩ := Nat.exists_eq_add_of_le ((le_max_right k n).trans hj)
    have hattending := (e.trail n).attending hcount ha (e.trail_between n d)
      (List.any_eq_false.2 fun x hx => by
        obtain ⟨i, hi, rfl⟩ := e.exists_of_mem_between hx
        simp [hkept i hi])
    rw [← e.moments_add] at hattending
    exact hattending.farewells_eq (done_stays hdone ((le_max_left k n).trans hj))
  obtain ⟨result, hresult, -⟩ := hfarewells _ le_rfl
  refine ⟨max k n, result, le_max_right k n, hresult, fun j hj => ?_⟩
  obtain ⟨result', hresult', hfarewell⟩ := hfarewells j hj
  have hsuffix : results run (e.moments (max k n)) <:+ results run (e.moments j) :=
    results_suffix hj
  rw [hresult, hresult'] at hsuffix
  obtain ⟨rfl, -⟩ := List.cons.inj (hsuffix.eq_of_length rfl)
  exact hfarewell

end Schedule

/-! ## Enrolment -/

/-- **When no run is alive, all that have been started have taken their observers.** -/
theorem Trail.isDrained_of_idle {directory : String}
    (hp : Trail setup (System.initial setup directory) p s) (ha : s.control.alive = false)
    (hcount : run < p.countP Moment.starts) : s.isDrained run = true := by
  have ho := hp.reachable.orderly
  have hnone : s.atWork + s.owed = 0 := ho.outstanding_eq_zero_iff.2 ha
  rw [hp.starts_eq, (Nat.add_eq_zero_iff.1 hnone).2, Nat.add_zero] at hcount
  have htask : s.tasks[run]? = some s.tasks[run] := List.getElem?_eq_getElem hcount
  have hq : s.point? run = some s.tasks[run].point := by rw [System.point?, htask, Option.map_some]
  refine System.isDrained_eq_true_iff.2 ⟨_, hq, Point.isDrained_of_isOver ?_⟩
  by_contra hover
  have hphase := System.phase?_eq_some_iff.2 ⟨_, htask, rfl⟩
  cases ha.symm.trans (ho.alive_of_phase hphase (by simpa using hover))

/-- A run that is alive has its observers on the roster, or has taken them in its last step. -/
theorem Trail.undrained_of_alive {directory : String}
    (hp : Trail setup (System.initial setup directory) p s) (ha : s.control.alive = true) :
    ∃ run, p.countP Moment.starts = run + 1 ∧
      (s.isDrained run = false ∨ (s.point? run).any Point.isFinishing = true) := by
  have ho := hp.reachable.orderly
  have hno : s.control.start .stopped = none := by simp [Control.start, ha]
  obtain howed | ⟨run, f, hf, halive⟩ := ho.owed_or_alive hno
  · -- the run is on its way to the pool
    have hone := ho.outstanding
    rw [ha, if_pos rfl, System.outstanding] at hone
    refine ⟨s.tasks.length, by rw [hp.starts_eq]; omega, .inl ?_⟩
    rw [System.isDrained_eq_false_iff]
    intro q hq
    simp [System.point?] at hq
  · refine ⟨run, hp.starts_of_phase hf halive, ?_⟩
    obtain ⟨t, ht, rfl⟩ := System.phase?_eq_some_iff.1 hf
    have hq : s.point? run = some t.point := by rw [System.point?, ht, Option.map_some]
    rw [System.isDrained, hq, Option.any_some, Option.any_some]
    cases hpoint : t.point with
    | finishing result watchers => exact .inr rfl
    | ending result queue | done =>
      rw [hpoint] at halive
      cases halive
    | _ => exact .inl rfl

/-- What an observer who is added is told of the runs that have been started. A run takes its
observers off the roster once, about when it ends: when no run is alive all have done so (`idle`),
and the one that is alive, interrupted or not, has done so only if it is about to be no longer alive
(`alive`). Who is added after that is told nothing of the run, unless it is one of those that were
taken and has yet to be told of the end (`late`). Who is added before, and whom nobody removes, is
told of the end once (`timely`), and is told if the run is served (`served`). -/
structure Enrolment (setup : Setup κ) : Prop where
  idle : ∀ directory p s, Trail setup (System.initial setup directory) p s →
    s.control.alive = false → ∀ run, run < p.countP Moment.starts → s.isDrained run = true
  alive : ∀ directory p s, Trail setup (System.initial setup directory) p s →
    s.control.alive = true → ∃ run, p.countP Moment.starts = run + 1 ∧
      (s.isDrained run = false ∨ (s.point? run).any Point.isFinishing = true)
  late : ∀ directory p s t o s₁ m s' run, Trail setup (System.initial setup directory) p s →
    s.step setup (.act t (.addObserver o)) = some s₁ → Trail setup s₁ m s' →
    s.isDrained run = true → tellings setup run o m <+: s.farewell run o
  timely : ∀ directory p s t o s₁ m s' run, Trail setup (System.initial setup directory) p s →
    s.step setup (.act t (.addObserver o)) = some s₁ → Trail setup s₁ m s' →
    run < p.countP Moment.starts → s.isDrained run = false → m.any (Moment.removes o) = false →
    let past := m ++ ⟨s, .act t (.addObserver o)⟩ :: p
    (farewells setup run o past).length ≤ 1 ∧ (s'.point? run = some .done →
      ∃ result, results run past = [result] ∧ farewells setup run o past = [result])
  served : ∀ (e : Schedule setup) n t o run, e.label n = .act t (.addObserver o) →
    run < (e.moments n).countP Moment.starts → (e.state n).isDrained run = false →
    (∀ i, n < i → (e.moment i).removes o = false) → Served e run →
    ∃ k result, n < k ∧ results run (e.moments k) = [result] ∧
      ∀ j, k ≤ j → farewells setup run o (e.moments j) = [result]

/-- An observer who is added attends the run that has its observers on the roster. -/
theorem Attending.of_add {t : Thread} (hs : s.step setup (.act t (.addObserver o)) = some s₁)
    (hd : s.isDrained run = false) :
    Attending setup run o (⟨s, .act t (.addObserver o)⟩ :: p) s₁ := by
  obtain ⟨-, rfl⟩ := System.act_of_step hs
  refine .registered hd ?_
  change o ∈ (s.roster.add o).members
  unfold Roster.add
  split_ifs with hmem
  · exact hmem
  · exact List.mem_append_right _ List.mem_cons_self

/-- **An observer belongs to the run that next takes the observers off the roster.** -/
theorem enrolment (setup : Setup κ) : Enrolment setup where
  idle _ _ _ hp ha _ hcount := hp.isDrained_of_idle ha hcount
  alive _ _ _ hp ha := hp.undrained_of_alive ha
  late _ _ s t o s₁ m s' run hp hs hm hd := by
    obtain ⟨q, hq, hdrained⟩ := System.isDrained_eq_true_iff.1 hd
    have hq₁ : s₁.point? run = some q := by
      obtain ⟨-, htasks⟩ | ⟨hl, -⟩ := System.drained_of_step hq hdrained hs
      · exact htasks
      · cases hl
    obtain ⟨q', -, -, hleft⟩ := hm.tellings_of_drained o (hp.cons hs).reachable hq₁ hdrained
    rw [System.farewell, hq, Option.map_some, Option.getD_some, ← hleft]
    exact List.prefix_append _ _
  timely _ p s t o s₁ m s' run hp hs hm hcount hd hkept := by
    have hp₁ := hp.cons hs
    have ha := hp₁.attending (hcount.trans_le (List.countP_cons ▸ Nat.le_add_right _ _))
      (.of_add hs hd) hm hkept
    exact ⟨ha.farewells_length_le (hp₁.append hm), ha.farewells_eq⟩
  served e n t o run hl hcount hd hkept hserved := by
    have hs : (e.state n).step setup (.act t (.addObserver o)) = some (e.state (n + 1)) :=
      hl ▸ e.step n
    have hmoment : e.moment n = ⟨e.state n, .act t (.addObserver o)⟩ := by rw [Schedule.moment, hl]
    have hcount₁ : run < (e.moments (n + 1)).countP Moment.starts :=
      hcount.trans_le (List.countP_cons ▸ Nat.le_add_right _ _)
    exact Schedule.exists_farewell hserved hcount₁
      (by rw [Schedule.moments, hmoment]; exact .of_add hs hd) hkept

/-! ## Running is not what decides -/

/-- A run that has been interrupted goes on to its end. -/
def interruptedEnd : List (Label Unit) :=
  [.complete (.controller 0), .call 0 (.finish (.error .interrupted)), .advance 0 0, .advance 0 0,
    .advance 0 0, .advance 0 0, .returned 0, .advance 0 0]

/-- A run goes on until it has taken its observers. -/
def toFinish : List (Label Unit) :=
  toBody .breakpoint ++ [.call 0 (.finish (.ok ())), .advance 0 0, .advance 0 0, .advance 0 0]

/-- An observer who is added while an interrupted run is on its way is told of its end, and one who
is added while a run is running that has taken its observers is not. -/
theorem misjudged_by_isRunning :
    let setup : Setup Unit := Setup.bare ()
    let s₀ := System.initial setup ""
    let add : Label Unit := .act (.controller 1) (.addObserver "late")
    (∃ s s₁ s', s₀.steps setup (toBody .breakpoint ++ [.act (.controller 0) .interrupt]) = some s ∧
      s.roster.members = [] ∧ s.control.isRunning = false ∧
      s.step setup add = some s₁ ∧ s₁.steps setup interruptedEnd = some s' ∧
      callbacks setup "late" (s₁.moments setup interruptedEnd) =
        [(0, .ended (.interrupted 0))]) ∧
    ∃ s s₁ s', s₀.steps setup toFinish = some s ∧
      s.roster.members = [] ∧ s.control.isRunning = true ∧
      s.step setup add = some s₁ ∧ s₁.steps setup [.advance 0 0, .advance 0 0] = some s' ∧
      s'.point? 0 = some .done ∧
      callbacks setup "late" (s₁.moments setup [.advance 0 0, .advance 0 0]) = [] :=
  ⟨⟨_, _, _, rfl, rfl, rfl, rfl, rfl, rfl⟩, _, _, _, rfl, rfl, rfl, rfl, rfl, rfl, rfl⟩

/-- An interrupted run has yet to take its observers: one who is added then attends it. -/
theorem enrolment_interruptedEnd :
    let setup : Setup Unit := Setup.bare ()
    let s₀ := System.initial setup ""
    let entry : List (Label Unit) := toBody .breakpoint ++ [.act (.controller 0) .interrupt]
    let add : Label Unit := .act (.controller 1) (.addObserver "late")
    ∃ s s₁ s', s₀.steps setup entry = some s ∧ s.isDrained 0 = false ∧
      s.step setup add = some s₁ ∧ s₁.steps setup interruptedEnd = some s' ∧
      s'.point? 0 = some .done ∧
      let past := s₁.moments setup interruptedEnd ++ ⟨s, add⟩ :: s₀.moments setup entry
      ∃ result, results 0 past = [result] ∧ farewells setup 0 "late" past = [result] :=
  ⟨_, _, _, rfl, rfl, rfl, rfl, rfl,
    ((enrolment (Setup.bare ())).timely "" _ _ _ _ _ _ _ 0 (trail_of_steps rfl) rfl
      (trail_of_steps rfl) (by exact Nat.zero_lt_one) rfl rfl).2 rfl⟩

end RunControl
