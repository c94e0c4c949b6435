import RunControl.Proofs.Read
import RunControl.Proofs.Stepper

/-!
# Bodies that report given positions

Some bodies report the same positions whatever they are answered, as long as nothing fails, and then
return. While such a body runs, the positions that it has reported and those that it still has to
report make up the whole list.

* **`Reports`**: the body reports exactly these positions and returns;
* `Call.Due`, `Point.Due`: what is due after a call, and at a place;
* **`System.due_of_call`**, **`System.due_of_step`**: what is due after a call is due at the place
  to which it leads, and stays due until the next call;
* `Travels`, **`Trail.travels`**: the positions that are due in a run.
-/

namespace RunControl

variable {κ : Type}

/-- From the state on a body reports exactly these positions and returns, whatever it is answered:
a run in which nothing fails answers no errors. -/
inductive Reports (next : κ → Call κ) : κ → List Position → Prop
  | finish {state : κ} : next state = .finish (.ok ()) → Reports next state []
  | think {state state' : κ} {left : List Position} : next state = .think state' →
    Reports next state' left → Reports next state left
  | pausePoint {state : κ} {position : Position} {k : Except Fault Unit → κ}
    {left : List Position} : next state = .pausePoint position k →
    Reports next (k (.ok ())) left → Reports next state (position :: left)
  | checkInterrupted {state : κ} {k : Except Fault Unit → κ} {left : List Position} :
    next state = .checkInterrupted k → Reports next (k (.ok ())) left → Reports next state left
  | read {state : κ} {type : DataType} {k : Except Fault Value → κ} {left : List Position} :
    next state = .read type k →
    (∀ v, v.type = type → Reports next (k (.ok v)) left) → Reports next state left
  | write {state : κ} {v : Value} {k : Except Fault Unit → κ} {left : List Position} :
    next state = .write v k → Reports next (k (.ok ())) left → Reports next state left
  | clear {state : κ} {k : Except Fault Unit → κ} {left : List Position} :
    next state = .clear k → Reports next (k (.ok ())) left → Reports next state left
  | change {state state' : κ} {change : Snapshot.Change} {left : List Position} :
    next state = .change change state' → Reports next state' left → Reports next state left
  | query {state : κ} {query : Snapshot.Query} {k : Snapshot.Answer → κ} {left : List Position} :
    next state = .query query k → (∀ answer, Reports next (k answer) left) →
      Reports next state left
  | position {state : κ} {k : Position → κ} {left : List Position} : next state = .position k →
    (∀ position, Reports next (k position) left) → Reports next state left
  | resolve {state : κ} {path : String} {k : String → κ} {left : List Position} :
    next state = .resolve path k → (∀ answer, Reports next (k answer) left) →
      Reports next state left

/-! ## What is due -/

/-- What is due after a call that nothing goes wrong with: `P` of the state in which the body goes
on, or `exit` if it returns. -/
def Call.Due (P : κ → Prop) (exit : Prop) : Call κ → Prop
  | .finish outcome => outcome = .ok () ∧ exit
  | .panic _ => False
  | .think state | .change _ state => P state
  | .pausePoint _ k | .checkInterrupted k | .write _ k | .clear k => P (k (.ok ()))
  | .read type k => ∀ v, v.type = type → P (k (.ok v))
  | .query _ k => ∀ answer, P (k answer)
  | .position k => ∀ position, P (k position)
  | .resolve _ k => ∀ answer, P (k answer)

/-- **A body reports the first of its positions in its next call, or none.** -/
theorem Reports.due {next : κ → Call κ} {state : κ} {left : List Position}
    (h : Reports next state left) (run : RunId) : ∃ left',
      left = ((Label.call run (next state)).report?).toList ++ left' ∧
        (next state).Due (Reports next · left') (left' = []) := by
  cases h with
  | finish hstate =>
    rw [hstate]
    exact ⟨[], rfl, rfl, rfl⟩
  | pausePoint hstate hnext | think hstate hnext | checkInterrupted hstate hnext
  | read hstate hnext | write hstate hnext | clear hstate hnext | change hstate hnext
  | query hstate hnext | position hstate hnext | resolve hstate hnext =>
    rw [hstate]
    exact ⟨_, rfl, hnext⟩

/-- What is due after a notification: `P` of the state in which the body goes on. -/
def AfterNotice.Due (P : κ → Prop) (entry : Prop) : AfterNotice κ → Prop
  | .libraries => entry
  | .highlight h | .hold h => P (h.next (.ok ()))
  | .proceed state | .leaveRead (.answer state) => P state
  | .awaitAnswer ask => ∀ v, v.type = ask.type → P (ask.next (.ok v))
  | .leaveRead (.unwind _) => False

/-- What is due at a place, as long as nothing fails: before the body begins `entry`, then `P` of
the state in which it goes on, and `exit` after it has returned. -/
def Point.Due (P : κ → Prop) (entry exit : Prop) : Point κ → Prop
  | queued | initializing _ => entry
  | announcing _ after | telling _ _ after => after.Due P entry
  | body state | closingRead (.answer state) => P state
  | holding h | held h => P (h.next (.ok ()))
  | requesting ask | asking ask _ | checking ask | awaiting ask | awaitingAsleep ask =>
    ∀ v, v.type = ask.type → P (ask.next (.ok v))
  | writing _ _ k | clearing _ k => P (k (.ok ()))
  | finalizing _ outcome | classifying outcome => outcome = .ok () ∧ exit
  | draining result | finishing result _ | ending result _ => result.termination = .normal ∧ exit
  | done => exit
  | closingRead (.unwind _) | unwinding _ | recovering _ => False

variable {setup : Setup κ} {s s' s₁ : System κ} {m : List (Moment κ)} {l : Label κ} {run : RunId}
  {args : List String} {q q' : Point κ} {x : Moment κ} {next : κ → Call κ} {P : κ → Prop}
  {entry exit : Prop}

theorem Point.due_wake (q : Point κ) : q.wake.Due P entry exit ↔ q.Due P entry exit := by
  cases q <;> rfl

theorem Point.due_after {after : AfterNotice κ} (h : after.Due P entry) :
    (after.point setup).Due P entry exit := by
  cases after with
  | leaveRead exit =>
    cases exit with
    | answer state => exact h
    | unwind message => cases h
  | _ => exact h

theorem Control.type_of_takeAnswer {c : Control} {type : DataType} {v : Value}
    (h : (c.takeAnswer type).2 = .ok v) : v.type = type := by
  unfold takeAnswer at h
  split_ifs at h
  · split at h <;> cases h
  · split at h
    · split at h
      · rename_i w hw
        obtain rfl := Except.ok.inj h
        exact Value.type_of_coerce hw
      · cases h
    · cases h

namespace System

theorem due_takeAnswer {ask : Ask κ} (hask : ∀ v, v.type = ask.type → P (ask.next (.ok v)))
    (hok : (s.control.takeAnswer ask.type).2.toBool = true) :
    (Point.closingRead (.answer (ask.next (s.control.takeAnswer ask.type).2))).Due
      P entry exit := by
  cases hanswer : (s.control.takeAnswer ask.type).2 with
  | error fault =>
    rw [hanswer] at hok
    cases hok
  | ok v => exact hask v (Control.type_of_takeAnswer hanswer)

theorem Takes.due (h : s.Takes setup run args l q s₁ q') (hc : ∀ c, l ≠ .call run c)
    (hi : s.control.interrupted = false) (hsmooth : (Moment.mk s l).fails run = false)
    (hq : s.point? run = some q) (hentry : entry → ∀ n, P (setup.entry n args))
    (hdue : q.Due P entry exit) : q'.Due P entry exit := by
  cases h with
  | told => exact Point.due_after hdue
  | enter => exact hentry hdue _
  | @park _ w => cases w <;> exact hdue
  | release => simpa [hi, Point.Due, AfterNotice.Due] using hdue
  | @take _ _ ask hasks hawaits =>
    have hok : (s.control.takeAnswer ask.type).2.toBool = true := by
      obtain rfl | rfl := hasks <;> simpa [Moment.fails, hq, hawaits] using hsmooth
    obtain rfl | rfl := hasks <;> exact due_takeAnswer hdue hok
  | @close _ exit =>
    cases exit with
    | answer state => exact hdue
    | unwind message => cases hdue
  | unwound | recovered | caught => cases hdue
  | classified hresult =>
    obtain ⟨rfl, hexit⟩ := hdue
    obtain rfl := Except.ok.inj hresult
    exact ⟨rfl, hexit⟩
  | misjudged hpayload =>
    obtain ⟨rfl, -⟩ := hdue
    cases hpayload
  | retired => exact hdue.2
  | called => exact absurd rfl (hc _)
  | returned hskips => cases hskips <;> exact hdue
  | refused | lapsed | unwritten | uncleared | tornNotice | collided | tornStart | tornRequest
  | tornWrite | tornClear | tornStop | tornEnd => simp [Moment.fails] at hsmooth
  | _ => exact hdue

/-- **What is due stays due until the next call of the body**, as long as nothing fails. -/
theorem due_of_step {task : Task κ} (hc : ∀ c, l ≠ .call run c)
    (hi : s.control.interrupted = false) (hsmooth : (Moment.mk s l).fails run = false)
    (ht : s.tasks[run]? = some task) (hentry : entry → ∀ n, P (setup.entry n task.args))
    (hdue : task.point.Due P entry exit) (hs : s.step setup l = some s') :
    ∃ q', s'.point? run = some q' ∧ q'.Due P entry exit := by
  have hq : s.point? run = some task.point := by rw [point?, ht, Option.map_some]
  by_cases hl : l.worker? = some run
  · obtain ⟨s₁, q', -, hq', htakes⟩ := takes_of_task hl ht hs
    exact ⟨q', hq', htakes.due hc hi hsmooth hq hentry hdue⟩
  · obtain he | ⟨-, hnone, -⟩ | ⟨he, -⟩ := (stepped_of_step hs).point?_cases hl
    · exact ⟨_, he.trans hq, hdue⟩
    · cases hnone.symm.trans hq
    · exact ⟨_, by rw [he, hq, Option.map_some], (Point.due_wake _).2 hdue⟩

end System

/-! ## A call of the body -/

theorem System.Called.due {c : Call κ} (h : s.Called setup c s₁ q')
    (hi : s.control.interrupted = false)
    (hsmooth : (Moment.mk s (.call run c)).fails run = false) (hdue : c.Due P exit) :
    q'.Due P entry exit := by
  cases h with
  | panic => cases hdue
  | report | checkInterrupted => simpa [hi, Call.Due, Point.Due] using hdue
  | refuseRead ho => cases ho.symm.trans (Control.openRead_eq_some_iff.2 ⟨hi, rfl⟩)
  | query | position | resolve => exact hdue _
  | overflow hover => simp [Moment.fails, hover] at hsmooth
  | _ => exact hdue

/-- **What is due after a call is due at the place to which it leads.** -/
theorem System.due_of_call {state : κ} {c : Call κ} (hi : s.control.interrupted = false)
    (hsmooth : (Moment.mk s (.call run c)).fails run = false)
    (hq : s.point? run = some (.body state)) (h : c.Due P exit) :
    ∃ q', (s.call setup run c).point? run = some q' ∧ q'.Due P entry exit := by
  obtain ⟨s₁, q', hq', -, hcalled⟩ := point?_call setup hq c
  exact ⟨q', hq', hcalled.due hi hsmooth h⟩

theorem System.worker?_of_unseen (hnone : s.point? run = none) (hs : s.step setup l = some s') :
    l.worker? ≠ some run := fun hl => by
  obtain ⟨task, q, ht⟩ := turned_of_step hl hs
  cases hnone.symm.trans ht.point?.1

theorem System.queued_of_unseen (hnone : s.point? run = none) (hq' : s'.point? run = some q')
    (hs : s.step setup l = some s') : q' = .queued := by
  have hl := worker?_of_unseen hnone hs
  obtain he | ⟨-, -, hqueued⟩ | ⟨he, -⟩ := (stepped_of_step hs).point?_cases hl
  · cases (he.trans hnone).symm.trans hq'
  · exact Option.some.inj (hq'.symm.trans hqueued)
  · rw [he, hnone] at hq'
    cases hq'

/-! ## A run that travels through the positions -/

/-- The latest run is on its way through the positions: those that it has reported and those that
are due make them up. -/
structure Travels (setup : Setup κ) (next : κ → Call κ) (args : List String)
    (positions : List Position) (run : RunId) (m : List (Moment κ)) (s : System κ) : Prop where
  handed : Handed run args s
  unseen : s.point? run = none → visited run m = []
  due : ∀ q, s.point? run = some q → ∃ left, visited run m ++ left = positions ∧
    q.Due (Reports next · left) (∀ n, Reports next (setup.entry n args) left) (left = [])
  ends : ∀ result ∈ results run m, result.termination = .normal

namespace Travels

variable {args : List String} {positions : List Position}

theorem due_step (h : Travels setup next args positions run m s)
    (hi : s.control.interrupted = false) (hx : Moment.Steady next run ⟨s, l⟩)
    (hq : s.point? run = some q) (hs : s.step setup l = some s') :
    ∃ q' left, s'.point? run = some q' ∧ visited run (⟨s, l⟩ :: m) ++ left = positions ∧
      q'.Due (Reports next · left) (∀ n, Reports next (setup.entry n args) left) (left = []) := by
  obtain ⟨left, hpositions, hdue⟩ := h.due q hq
  rw [visited_cons]
  by_cases hcall : ∃ c, l = .call run c
  · obtain ⟨c, rfl⟩ := hcall
    obtain ⟨state, hbody, rfl⟩ := System.step_call hs
    obtain rfl := hx.follows c state rfl hbody
    obtain rfl := Option.some.inj (hq.symm.trans hbody)
    obtain ⟨left', rfl, hdue'⟩ := Reports.due hdue run
    obtain ⟨q', hq', hdue'⟩ := System.due_of_call hi hx.smooth hbody hdue'
    refine ⟨q', left', hq', ?_, hdue'⟩
    rw [Moment.report?, if_pos (show (Label.call run (next state)).worker? = some run from rfl),
      List.append_assoc, hpositions]
  · have hc : ∀ c, l ≠ .call run c := fun c he => hcall ⟨c, he⟩
    obtain ⟨task, ht, rfl⟩ := System.point?_eq_some_iff.1 hq
    have hentry : (∀ n, Reports next (setup.entry n args) left) →
        ∀ n, Reports next (setup.entry n task.args) left := by
      rw [h.handed.args task ht]
      exact id
    obtain ⟨q', hq', hdue'⟩ := System.due_of_step hc hi hx.smooth ht hentry hdue hs
    refine ⟨q', left, hq', ?_, hdue'⟩
    rw [Moment.report?_of_not_call hc, Option.toList_none, List.append_nil, hpositions]

theorem ends_step (h : Travels setup next args positions run m s)
    (hs : s.step setup l = some s') :
    ∀ result ∈ results run (⟨s, l⟩ :: m), result.termination = .normal := by
  intro result hmem
  rw [results_cons, List.mem_append, Option.mem_toList] at hmem
  obtain hx | hmem := hmem
  · obtain ⟨_, hx', hfinishing, -⟩ | ⟨hnone, -⟩ := @result_of_step _ _ _ _ _ run hs
    · obtain rfl := Option.some.inj (hx'.symm.trans hx)
      obtain ⟨q, hq, hphase⟩ := Option.map_eq_some_iff.1 hfinishing
      obtain ⟨left, -, hdue⟩ := h.due q hq
      cases q with
      | finishing result' watchers =>
        obtain rfl := Phase.finishing.inj hphase
        exact hdue.1
      | _ => exact absurd hphase (Point.phase_ne_finishing rfl _)
    · cases hnone.symm.trans hx
  · exact h.ends result hmem

/-- **A step of a steady run keeps it on its way.** -/
theorem step (h : Travels setup next args positions run m s)
    (hentry : ∀ n, Reports next (setup.entry n args) positions)
    (hi : s.control.interrupted = false) (hx : Moment.Steady next run ⟨s, l⟩)
    (hs : s.step setup l = some s') : Travels setup next args positions run (⟨s, l⟩ :: m) s' := by
  have hunseen (hnone : s.point? run = none) : visited run (⟨s, l⟩ :: m) = [] := by
    have hl := System.worker?_of_unseen hnone hs
    rw [visited_cons, Moment.report?, if_neg hl, h.unseen hnone]
    rfl
  refine ⟨h.handed.step hx.starts hs, fun hnone' => ?_, fun q' hq' => ?_, h.ends_step hs⟩
  · cases hq : s.point? run with
    | none => exact hunseen hq
    | some q =>
      obtain ⟨q', -, hq', -⟩ := h.due_step hi hx hq hs
      cases hnone'.symm.trans hq'
  · cases hq : s.point? run with
    | none =>
      obtain rfl := System.queued_of_unseen hq hq' hs
      exact ⟨positions, by rw [hunseen hq, List.nil_append], hentry⟩
    | some q =>
      obtain ⟨q₁, left, hq₁, hdue⟩ := h.due_step hi hx hq hs
      obtain rfl := Option.some.inj (hq₁.symm.trans hq')
      exact ⟨left, hdue⟩

end Travels

/-- **As long as nobody interferes but in a pause and nothing fails, the positions that a run has
reported and those that are due are those of its body.** -/
theorem Trail.travels {s₀ : System κ} {args : List String} {positions : List Position} {count : ℕ}
    {stance : Stance} (hm : Trail setup s₀ m s) (hr : Reachable setup s₀)
    (h₀ : OnCourse count stance run ([], none) [] [] s₀)
    (htravels : Travels setup next args positions run [] s₀)
    (hentry : ∀ n, Reports next (setup.entry n args) positions)
    (hsteady : ∀ x ∈ m, Moment.Steady next run x) :
    Travels setup next args positions run m s := by
  induction hm with
  | nil => exact htravels
  | cons hm hs ih =>
    have hbefore := fun x hx => hsteady x (List.mem_cons_of_mem _ hx)
    exact (ih hbefore).step hentry (hm.onCourse hr h₀ hbefore).interrupted
      (hsteady _ List.mem_cons_self) hs

end RunControl
