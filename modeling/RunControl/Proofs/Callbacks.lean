import RunControl.Proofs.Attendance
import RunControl.Proofs.Isolation

/-!
# When callbacks begin

A callback of an observer begins with the turn that leads the worker of a run to it. A run that has
taken its observers off the roster tells them of its end, and nobody anything else.

* `Moment.begins?`, `callbacks`, `tellings`: the callbacks of an observer, in the order in which
  they begin, and those of one run;
* `Point.farewell`, `Point.Departs`, `System.drained_of_step`: the end of a run that an observer on
  its list has yet to be told;
* **`Trail.tellings_of_drained`**: what a run that has taken its observers still tells;
* `farewells`, **`Trail.farewells_of_undrained`**: no observer is told of the end of a run that has
  not taken its observers.
-/

namespace RunControl

variable {κ : Type}

/-- The callback of the observer that begins with the step: its run, and what it tells. -/
def Moment.begins? (setup : Setup κ) (o : ObserverId) (x : Moment κ) :
    Option (RunId × Notice) := do
  let s' ← x.state.step setup x.label
  let run ← x.label.worker?
  let q ← s'.point? run
  if s'.aborted then none else (q.tells? o).map fun notice => (run, notice)

/-- The callbacks of the observer, in the order in which they begin. -/
def callbacks (setup : Setup κ) (o : ObserverId) (p : List (Moment κ)) : List (RunId × Notice) :=
  (p.filterMap (Moment.begins? setup o)).reverse

/-- What the run tells the observer, in the order in which the callbacks begin. -/
def tellings (setup : Setup κ) (run : RunId) (o : ObserverId) (p : List (Moment κ)) : List Notice :=
  (callbacks setup o p).filterMap fun c => if c.1 = run then some c.2 else none

variable {setup : Setup κ} {s s₁ s' : System κ} {m p : List (Moment κ)} {l : Label κ} {run : RunId}
  {q q' : Point κ} {o : ObserverId} {notice : Notice} {x : Moment κ}

theorem callbacks_cons : callbacks setup o (x :: m) =
    callbacks setup o m ++ (x.begins? setup o).toList :=
  reverse_filterMap_cons _ x m

theorem mem_tellings : notice ∈ tellings setup run o m ↔ (run, notice) ∈ callbacks setup o m := by
  simp only [tellings, List.mem_filterMap, Option.ite_none_right_eq_some, Option.some.injEq]
  constructor
  · rintro ⟨⟨_, _⟩, hc, rfl, rfl⟩
    exact hc
  · exact fun hc => ⟨_, hc, rfl, rfl⟩

theorem Moment.begins?_of_worker (hs : s.step setup l = some s') (hl : l.worker? = some run)
    (hq : s'.point? run = some q) (ha : s'.aborted = false) :
    (Moment.mk s l).begins? setup o = (q.tells? o).map fun notice => (run, notice) := by
  simp [begins?, hs, hl, hq, ha]

theorem Moment.begins?_of_aborted (hs : s.step setup l = some s') (ha : s'.aborted = true) :
    (Moment.mk s l).begins? setup o = none := by
  simp [begins?, hs, ha]

theorem Moment.worker?_of_begins? {x : Moment κ} (h : x.begins? setup o = some (run, notice)) :
    x.label.worker? = some run := by
  simp only [begins?, Option.bind_eq_bind, Option.bind_eq_some_iff] at h
  obtain ⟨s', -, r, hr, q, -, h⟩ := h
  split_ifs at h
  obtain ⟨n, -, h⟩ := Option.map_eq_some_iff.1 h
  obtain ⟨rfl, -⟩ := Prod.mk.inj h
  exact hr

theorem tellings_cons : tellings setup run o (x :: m) = tellings setup run o m ++
    (x.begins? setup o).toList.filterMap fun c => if c.1 = run then some c.2 else none := by
  rw [tellings, callbacks_cons, List.filterMap_append, tellings]

theorem tellings_of_worker (hs : s.step setup l = some s') (hl : l.worker? = some run)
    (hq : s'.point? run = some q) (ha : s'.aborted = false) :
    tellings setup run o (⟨s, l⟩ :: m) = tellings setup run o m ++ (q.tells? o).toList := by
  rw [tellings_cons, Moment.begins?_of_worker hs hl hq ha]
  cases q.tells? o <;> simp

theorem tellings_of_aborted (hs : s.step setup l = some s') (ha : s'.aborted = true) :
    tellings setup run o (⟨s, l⟩ :: m) = tellings setup run o m := by
  rw [tellings_cons, Moment.begins?_of_aborted hs ha, Option.toList_none, List.filterMap_nil,
    List.append_nil]

theorem tellings_of_other (hl : x.label.worker? ≠ some run) :
    tellings setup run o (x :: m) = tellings setup run o m := by
  rw [tellings_cons]
  cases hx : x.begins? setup o with
  | none => simp
  | some c =>
    obtain ⟨r, notice⟩ := c
    have hr : r ≠ run := fun he => hl (he ▸ Moment.worker?_of_begins? hx)
    simp [hr]

/-! ## A run that has taken its observers -/

namespace Point

/-- The end that the observer, who is on the list of the run, has yet to be told. -/
def farewell (o : ObserverId) : Point κ → List Notice
  | finishing result watchers => if o ∈ watchers then [.ended result] else []
  | ending result (_ :: rest) => if o ∈ rest then [.ended result] else []
  | _ => []

/-- From where to where a turn leads that comes after the list has been taken. -/
inductive Departs : Point κ → Point κ → Prop
  | finish {result : RunResult} {watchers : List ObserverId} :
    Departs (.finishing result watchers) (.ending result watchers)
  | tell {result : RunResult} {first : ObserverId} {rest : List ObserverId} :
    Departs (.ending result (first :: rest)) (.ending result rest)
  | leave {result : RunResult} : Departs (.ending result []) .done

theorem Next.departs (h : Next setup run l q q') (hd : q.isDrained = true) : q.Departs q' := by
  cases h with
  | skip hskips =>
    cases hskips with
    | ending => exact .tell
    | telling | initializing | finalizing => cases hd
  | finished => exact .finish
  | retired => exact .leave
  | @sleep _ w => cases w <;> cases hd
  | _ => cases hd

theorem Departs.isDrained (h : q.Departs q') : q'.isDrained = true := by cases h <;> rfl

theorem farewell_ending {result : RunResult} {queue : List ObserverId} (hnodup : queue.Nodup) :
    (if o ∈ queue then [.ended result] else []) =
      ((Point.ending result queue : Point κ).tells? o).toList ++
        (Point.ending result queue : Point κ).farewell o := by
  cases queue with
  | nil => rfl
  | cons first rest =>
    by_cases he : first = o
    · subst he
      simp [tells?, farewell, (List.nodup_cons.1 hnodup).1]
    · simp [tells?, farewell, he, Ne.symm he]

theorem Departs.farewell (h : q.Departs q') (hnodup : q.queue.Nodup) :
    q.farewell o = (q'.tells? o).toList ++ q'.farewell o := by
  cases h with
  | finish => exact farewell_ending hnodup
  | tell => exact farewell_ending (List.nodup_cons.1 hnodup).2
  | leave => rfl

end Point

/-- What a step leaves of a run that has taken its observers. -/
theorem System.drained_of_step (hq : s.point? run = some q) (hd : q.isDrained = true)
    (hs : s.step setup l = some s') :
    l.worker? ≠ some run ∧ s'.point? run = some q ∨
      l.worker? = some run ∧ s'.aborted = false ∧ ∃ q', s'.point? run = some q' ∧ q.Departs q' := by
  by_cases hl : l.worker? = some run
  · have hc : ∀ c, l ≠ .call run c := by
      rintro c rfl
      obtain ⟨state, hbody, -⟩ := step_call hs
      obtain rfl := Option.some.inj (hq.symm.trans hbody)
      cases hd
    obtain ⟨q₀, hq₀, ⟨q', hq', ha, hnext⟩ | ⟨hcollides, -⟩⟩ := next_of_step hl hc hs
    · obtain rfl := Option.some.inj (hq.symm.trans hq₀)
      exact .inr ⟨hl, ha, q', hq', hnext.departs hd⟩
    · -- two panics meet in a notification only
      obtain ⟨_, _, _, _, _, -, hpoint⟩ := collides_cases hcollides
      obtain rfl := Option.some.inj (hq.symm.trans hpoint)
      cases hd
  · left
    obtain he | ⟨-, hnone, -⟩ | ⟨he, -⟩ := (stepped_of_step hs).point?_cases hl
    · exact ⟨hl, he.trans hq⟩
    · cases hq.symm.trans hnone
    · refine ⟨hl, ?_⟩
      rw [he, hq]
      cases q <;> first | rfl | cases hd

/-- **A run that has taken its observers tells those who are left on its list of its end, each
once**, and nobody anything else. -/
theorem Trail.tellings_of_drained (o : ObserverId) (hr : Reachable setup s)
    (hm : Trail setup s m s') (hq : s.point? run = some q) (hd : q.isDrained = true) :
    ∃ q', s'.point? run = some q' ∧ q'.isDrained = true ∧
      tellings setup run o m ++ q'.farewell o = q.farewell o := by
  induction hm with
  | nil => exact ⟨q, hq, hd, rfl⟩
  | @cons m s₁ s' l hm hs ih =>
    obtain ⟨q₁, hq₁, hd₁, hleft⟩ := ih
    obtain ⟨hl, hq'⟩ | ⟨hl, ha, q', hq', hdeparts⟩ := System.drained_of_step hq₁ hd₁ hs
    · exact ⟨q₁, hq', hd₁, by rw [tellings_of_other hl, hleft]⟩
    · have hnodup := (hm.reachable_append hr).nodup_queue run q₁ hq₁
      refine ⟨q', hq', hdeparts.isDrained, ?_⟩
      rw [tellings_of_worker hs hl hq' ha, List.append_assoc, ← hdeparts.farewell hnodup, hleft]

/-! ## A run that has its observers on the roster -/

/-- The result of which the notice tells. -/
def Notice.result? : Notice → Option RunResult
  | ended result => some result
  | _ => none

/-- The notice on which the worker is. -/
def Point.heralds? : Point κ → Option Notice
  | announcing notice _ | telling notice _ _ => some notice
  | _ => none

/-- The results with which the observer is told of the end of the run, in order. -/
def farewells (setup : Setup κ) (run : RunId) (o : ObserverId) (p : List (Moment κ)) :
    List RunResult :=
  (tellings setup run o p).filterMap Notice.result?

/-- What holds where a run comes to the pool, and is kept by calls, by turns and by waking, holds
wherever a worker can be. -/
theorem Reachable.point {P : Point κ → Prop} (hr : Reachable setup s) (hqueued : P .queued)
    (hwake : ∀ q, P q → P q.wake)
    (hcall : ∀ (s : System κ) run state c, s.point? run = some (.body state) →
      ∃ q, (s.call setup run c).point? run = some q ∧ P q)
    (hnext : ∀ run l q q', P q → q.Next setup run l q' → P q') :
    ∀ run q, s.point? run = some q → P q := by
  refine hr.invariant (I := fun s => ∀ run q, s.point? run = some q → P q) ?_ ?_
  · intro directory run q hq
    simp [System.point?, System.initial] at hq
  · intro s l s' ih hs run q' hq'
    cases System.comes_of_step hs hq' with
    | stays _ hq => exact ih run q' hq
    | wakes _ hq => exact hwake _ (ih run _ hq)
    | joins => exact hqueued
    | calls _ hbody hcalled =>
      obtain ⟨q₁, hq₁, hkept⟩ := hcall s run _ _ hbody
      exact Option.some.inj (hq₁.symm.trans hcalled) ▸ hkept
    | turns _ _ hq _ hturn => exact hnext run l _ q' (ih run _ hq) hturn

theorem System.heralds?_of_call {state : κ} (hq : s.point? run = some (.body state)) (c : Call κ) :
    ∃ q, (s.call setup run c).point? run = some q ∧
      ∀ notice, q.heralds? = some notice → notice.result? = none := by
  obtain ⟨s₁, q, hq, -, hcalled⟩ := point?_call setup hq c
  refine ⟨q, hq, ?_⟩
  cases hcalled with
  | pause =>
    rintro _ ⟨⟩
    rfl
  | _ => rintro _ ⟨⟩

theorem Point.Next.heralds? (h : Next setup run l q q') (hn : q'.heralds? = some notice) :
    q.heralds? = some notice ∨ notice.result? = none := by
  cases h with
  | skip hskips =>
    cases hskips with
    | telling => exact .inl hn
    | _ => cases hn
  | tell => exact .inl hn
  | begin | release | wait | close =>
    cases hn
    exact .inr rfl
  | @told _ _ after =>
    cases after with
    | highlight hold =>
      cases hn
      exact .inr rfl
    | leaveRead exit => cases exit <;> cases hn
    | _ => cases hn
  | @sleep _ w => cases w <;> cases hn
  | @tornNotice _ _ _ after _ htorn =>
    cases after with
    | leaveRead exit =>
      cases exit <;> cases htorn
      cases hn
    | _ =>
      cases htorn
      cases hn
  | _ => cases hn

theorem Reachable.result?_of_heralds? (hr : Reachable setup s) (hq : s.point? run = some q)
    (hn : q.heralds? = some notice) : notice.result? = none :=
  hr.point (P := fun q => ∀ n, q.heralds? = some n → n.result? = none) (by rintro _ ⟨⟩)
    (fun q hq n hn => hq n (by cases q <;> exact hn))
    (fun _ _ _ c hbody => System.heralds?_of_call hbody c)
    (fun _ _ _ _ hq hnext n hn => (hnext.heralds? hn).elim (hq n) id) run q hq notice hn

theorem farewells_of_tellings (h : tellings setup run o (x :: m) = tellings setup run o m) :
    farewells setup run o (x :: m) = farewells setup run o m := by
  rw [farewells, h, farewells]

theorem Point.heralds?_of_tells? (hd : q.isDrained = false) (ho : q.tells? o = some notice) :
    q.heralds? = some notice := by
  cases q with
  | telling notice queue after =>
    cases queue with
    | nil => cases ho
    | cons first queue =>
      simp only [tells?, Option.ite_none_right_eq_some] at ho
      exact ho.2
  | ending result queue => cases hd
  | _ => cases ho

/-- A step that leaves the run with its observers on the roster tells nobody of its end. -/
theorem farewells_of_step (hr : Reachable setup s) (hs : s.step setup l = some s')
    (hd : ∀ q, s'.point? run = some q → q.isDrained = false) :
    farewells setup run o (⟨s, l⟩ :: p) = farewells setup run o p := by
  by_cases hl : l.worker? = some run
  · cases ha : s'.aborted with
    | true => exact farewells_of_tellings (tellings_of_aborted hs ha)
    | false =>
      obtain ⟨t, q, ht⟩ := System.turned_of_step hl hs
      have hq := ht.point?.2
      rw [farewells, tellings_of_worker hs hl hq ha, List.filterMap_append, ← farewells]
      cases ho : q.tells? o with
      | none => simp
      | some notice =>
        have hnone : notice.result? = none :=
          (hr.step hs).result?_of_heralds? hq (Point.heralds?_of_tells? (hd q hq) ho)
        simp [hnone]
  · exact farewells_of_tellings (tellings_of_other hl)

/-- **No observer is told of the end of a run that has not taken its observers.** -/
theorem Trail.farewells_of_undrained {directory : String}
    (hp : Trail setup (System.initial setup directory) p s)
    (hd : ∀ q, s.point? run = some q → q.isDrained = false) : farewells setup run o p = [] := by
  induction hp with
  | nil => rfl
  | cons hp hs ih =>
    rw [farewells_of_step hp.reachable hs hd, ih (System.undrained_of_step hs hd)]

end RunControl
