import RunControl.Proofs.Within

/-!
# The last position of a run

The control state has one position for all runs. A start clears it, and from then on it is the one
that the run has reported last.

* `lastReported`: the last position that a run has reported in a sequence of steps;
* `Reported`, **`Trail.position_eq`**: the position in the control state while a run is alive.
-/

namespace RunControl

variable {κ : Type}

/-- The position that the body reports. -/
def Label.report? : Label κ → Option Position
  | .call _ (.pausePoint position _) => some position
  | _ => none

/-- The position that the body of the run reports. -/
def Moment.report? (run : RunId) (x : Moment κ) : Option Position :=
  if x.label.worker? = some run then x.label.report? else none

/-- The last position that a run has reported. -/
def lastReported (run : RunId) (p : List (Moment κ)) : Position :=
  (p.findSome? (Moment.report? run)).getD .unknown

variable {setup : Setup κ} {s s' : System κ} {p : List (Moment κ)} {l : Label κ} {run : RunId}
  {q : Point κ} {x : Moment κ}

theorem lastReported_cons :
    lastReported run (x :: p) = (x.report? run).getD (lastReported run p) := by
  unfold lastReported
  cases h : x.report? run <;> simp [h]

/-! ## The position in the control state -/

/-- What the control state and the steps taken so far say of the position of a run: it begins
without one, on its way to the pool and there. -/
structure Reported (run : RunId) (p : List (Moment κ)) (s : System κ) : Prop where
  unseen : s.point? run = none → lastReported run p = .unknown
  owed : 0 < s.owed → s.control.position = .unknown
  alive : ∀ f, s.phase? run = some f → f.isOver = false →
    s.control.position = lastReported run p

section Step

variable {c c' : Control} {hs hs' : List UInt64} {q' : Point κ} {a : Action} {owed : Option Pending}
  {f : Phase κ}

theorem Acted.position_cases (h : Acted c hs a c' hs' owed) :
    (c.alive = false ∧ c'.position = .unknown) ∨
      c'.position = c.position ∧ (owed = none ∨ owed = some .notify) := by
  cases h with
  | start hc =>
    obtain ⟨halive, rfl⟩ := Control.start_eq_some_iff.1 hc
    exact .inl ⟨halive, rfl⟩
  | resume hc => exact .inr ⟨by rw [(Control.resume_eq_some_iff.1 hc).2], .inr rfl⟩
  | interrupt hc => exact .inr ⟨by rw [(Control.interrupt_eq_some_iff.1 hc).2], .inr rfl⟩
  | settle _ hc => exact .inr ⟨by rw [(Control.settle_eq_some_iff.1 hc).2], .inr rfl⟩
  | late | activate | other => exact .inr ⟨rfl, .inl rfl⟩

theorem System.Called.position_eq {s₁ : System κ} {call : Call κ}
    (h : s.Called setup call s₁ q') :
    s₁.control.position = (Label.call run call).report?.getD s.control.position := by
  cases h with
  | openRead ho =>
    obtain ⟨-, rfl⟩ := Control.openRead_eq_some_iff.1 ho
    rfl
  | _ => rfl

theorem position_of_step (h : s.step setup l = some s') (hl : l.worker? = some run) :
    s'.control.position = l.report?.getD s.control.position := by
  obtain ⟨⟨args, q⟩, s₁, q', -, rfl, htakes⟩ := System.takes_of_step hl h
  change s₁.control.position = l.report?.getD s.control.position
  cases htakes with
  | called hcalled => exact hcalled.position_eq
  | take => exact Control.position_takeAnswer _
  | _ => rfl

theorem System.Stepped.position (h : System.Stepped s s' l) (ho : Orderly s)
    (hf : s.phase? run = some f) (halive : f.isOver = false) (hl : l.worker? ≠ some run) :
    s'.control.position = s.control.position := by
  by_cases hact : ∃ t a, l = .act t a
  · obtain ⟨t, a, rfl⟩ := hact
    cases h with
    | act _ ha _ _ =>
      obtain ⟨hidle, -⟩ | ⟨he, -⟩ := ha.position_cases
      · cases (ho.alive_of_phase hf halive).symm.trans hidle
      · exact he
    | turn hw _ => cases hw
  · exact congrArg Control.position
      (h.kept ho hf halive hl fun t a hta => hact ⟨t, a, hta⟩).1

end Step

namespace Reported

theorem initial (directory : String) : Reported run [] (System.initial setup directory) where
  unseen _ := rfl
  owed _ := rfl
  alive f h := by simp [System.phase?, System.point?, System.initial] at h

variable (hr : Reported run p s)

include hr

theorem unseen_step (h : s.step setup l = some s') (hnone : s'.point? run = none) :
    lastReported run (⟨s, l⟩ :: p) = .unknown := by
  by_cases hl : l.worker? = some run
  · obtain ⟨t, q, ht⟩ := System.turned_of_step hl h
    cases hnone.symm.trans ht.point?.2
  · rw [lastReported_cons, Moment.report?, if_neg hl, Option.getD_none]
    obtain he | ⟨-, -, hqueued⟩ | ⟨he, -⟩ := (System.stepped_of_step h).point?_cases hl
    · exact hr.unseen (he ▸ hnone)
    · cases hnone.symm.trans hqueued
    · exact hr.unseen (Option.map_eq_none_iff.1 (he ▸ hnone))

theorem owed_step (ho : Orderly s) (h : s.step setup l = some s') (howed : 0 < s'.owed) :
    s'.control.position = .unknown := by
  cases System.stepped_of_step h with
  | @act t a owed _ ha _ hi =>
    obtain ⟨-, he⟩ | ⟨he, hno⟩ := ha.position_cases
    · exact he
    · rw [he]
      refine hr.owed ?_
      rw [System.owed, hi] at howed
      rcases hno with rfl | rfl <;> simpa [System.owed, Pending.isSubmit] using howed
  | notify hmem hc _ _ hi =>
    have heq : s'.owed = s.owed := ho.owed_complete hmem hi
    rw [hc]
    exact hr.owed (heq ▸ howed)
  | submit hmem hc _ _ hi =>
    have heq : s'.owed + 1 = s.owed := ho.owed_complete hmem hi
    rw [hc]
    exact hr.owed (heq ▸ Nat.succ_pos _)
  | wake _ _ hc _ _ hi =>
    rw [hc]
    exact hr.owed (by rwa [System.owed, hi] at howed)
  | @turn r _ t q _ ht =>
    have howed' : 0 < s.owed := by rwa [System.owed, ht.inFlight] at howed
    have hover : t.point.phase.isOver = true := by
      by_contra hn
      have hzero := ho.owed_eq_zero ht.phase?.1 (by simpa using hn)
      omega
    rw [(ht.turn.of_isOver hover).1]
    exact hr.owed howed'

theorem alive_step (ho : Orderly s) (h : s.step setup l = some s') {f : Phase κ}
    (hf : s'.phase? run = some f) (halive : f.isOver = false) :
    s'.control.position = lastReported run (⟨s, l⟩ :: p) := by
  rw [lastReported_cons]
  by_cases hl : l.worker? = some run
  · obtain ⟨t, q, ht⟩ := System.turned_of_step hl h
    obtain ⟨hbefore, hafter⟩ := ht.phase?
    obtain rfl := Option.some.inj (hafter.symm.trans hf)
    obtain ⟨-, hover, -⟩ | ⟨hover, -⟩ := ht.turn.alive_cases
    · rw [hover] at halive
      cases halive
    · rw [Moment.report?, if_pos hl, position_of_step h hl,
        hr.alive _ hbefore (hover ▸ halive)]
  · rw [Moment.report?, if_neg hl, Option.getD_none]
    have hstep := System.stepped_of_step h
    obtain he | ⟨hlen, hnone, hbusy⟩ := hstep.phase?_eq hl
    · rw [hstep.position ho (he ▸ hf) halive hl]
      exact hr.alive f (he ▸ hf) halive
    · -- the run comes to the pool
      rw [hr.unseen (Option.map_eq_none_iff.1 hnone)]
      obtain ⟨t, ht, -⟩ := System.phase?_eq_some_iff.1 hf
      have hlt := (List.getElem?_eq_some_iff.1 ht).1
      cases hstep with
      | submit hmem hc => rw [hc, hr.owed (List.countP_pos_iff.2 ⟨_, hmem, rfl⟩)]
      | act _ _ htasks _ | notify _ _ _ htasks _ | wake _ _ _ _ htasks _ =>
        simp [htasks, hlen] at hlt
      | turn _ hturned => simp [hturned.tasks, hlen] at hlt

theorem step (ho : Orderly s) (h : s.step setup l = some s') : Reported run (⟨s, l⟩ :: p) s' :=
  ⟨hr.unseen_step h, hr.owed_step ho h, fun _ hf halive => hr.alive_step ho h hf halive⟩

end Reported

theorem Trail.reported {directory : String}
    (hp : Trail setup (System.initial setup directory) p s) : Reported run p s := by
  induction hp with
  | nil => exact .initial directory
  | cons hp hs ih => exact ih.step hp.reachable.orderly hs

/-- **While a run is alive, the position in the control state is the last one that it has
reported.** -/
theorem Trail.position_eq {directory : String} {f : Phase κ}
    (hp : Trail setup (System.initial setup directory) p s) (hf : s.phase? run = some f)
    (halive : f.isOver = false) : s.control.position = lastReported run p :=
  hp.reported.alive f hf halive

end RunControl
