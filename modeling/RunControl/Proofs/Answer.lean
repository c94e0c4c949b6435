import RunControl.Proofs.Within

/-!
# How a call of the body is answered

A pause or a read begins in one phase of the worker and ends with an answer, with which the body
goes on. What happens at the end depends on the call; that the answer then reaches the body does
not.

* `Phase.GoesOn`: the answer has been decided;
* **`Trail.phase_induction`**: what holds of the phase of a run until the next call of its body;
* `Stage`, **`Trail.stage`**: a call is still in its first phase, or its answer was decided in a
  step of the trail, or a callback has panicked.
-/

namespace RunControl

variable {κ : Type} {setup : Setup κ} {s s₀ s' : System κ} {m : List (Moment κ)} {l : Label κ}
  {run : RunId} {f f₀ : Phase κ} {state : κ}

/-- The answer of a pause or of a read has been decided, and the body goes on, or has gone on, in
the state. -/
def Phase.GoesOn (state : κ) (f : Phase κ) : Prop :=
  f = .closing (.answer state) ∨ f = .returning state ∨ f = .body state

theorem Phase.GoesOn.eq {state' : κ} (h : f.GoesOn state) (h' : f.GoesOn state') :
    state = state' := by
  rcases h with rfl | rfl | rfl <;> rcases h' with h' | h' | h' <;> cases h' <;> rfl

section Step

variable {c c' : Control} {hs hs' : List UInt64} {q q' : Point κ}

/-- A worker that neither pauses nor reads, nor makes a call, moves on without touching the control
state, closes a read or ends its run. -/
theorem Turn.decided_cases (h : Turn run l c hs q c' hs' q') (hl : ∀ c, l ≠ .call run c)
    (hq : q.phase.isUndecided = false) :
    q.phase.Moves run l q'.phase ∨
      (∃ exit, q.phase = .closing exit ∧ q'.phase = (AfterNotice.leaveRead exit).phase) ∨
      ∃ result, q.phase = .finishing result ∧ q'.phase = .ending result := by
  cases h with
  | pass hp => exact .inl hp.moves
  | report | pause | openRead => exact absurd rfl (hl _)
  | @park _ _ w => cases w <;> cases hq
  | take hp => rcases hp with rfl | rfl <;> cases hq
  | unwind hp =>
    rw [hp] at hq
    cases hq
  | close => exact .inr (.inl ⟨_, rfl, rfl⟩)
  | finish => exact .inr (.inr ⟨_, rfl, rfl⟩)
  | _ => cases hq

theorem Turn.body_cases (h : Turn run l c hs q c' hs' q') (hl : ∀ c, l ≠ .call run c)
    (hq : q.phase = .body state) : q'.phase = .body state := by
  obtain hmoves | ⟨exit, he, -⟩ | ⟨result, he, -⟩ := h.decided_cases hl (by rw [hq]; rfl)
  · exact (hq ▸ hmoves).of_body hl
  · cases hq.symm.trans he
  · cases hq.symm.trans he

/-- An answer that has been decided stays until the next call, unless a callback panics. -/
theorem Turn.goesOn (h : Turn run l c hs q c' hs' q') (hl : ∀ c, l ≠ .call run c)
    (hq : q.phase.GoesOn state) :
    q'.phase.GoesOn state ∨ ∃ payload, l = .panicked run payload := by
  have hdecided : q.phase.isUndecided = false := by rcases hq with hq | hq | hq <;> rw [hq] <;> rfl
  obtain hmoves | ⟨exit, he, hleft⟩ | ⟨result, he, -⟩ := h.decided_cases hl hdecided
  · obtain hq | hq | hq := hq
    · exact .inl (.inl (hq ▸ hmoves).of_closing)
    · obtain hstay | hback | hpanic := (hq ▸ hmoves).of_returning
      · exact .inl (.inr (.inl hstay))
      · exact .inl (.inr (.inr hback))
      · exact .inr hpanic
    · exact .inl (.inr (.inr ((hq ▸ hmoves).of_body hl)))
  · rw [he] at hq
    rcases hq with hq | hq | hq <;> cases hq
    exact .inl (.inr (.inl hleft))
  · rw [he] at hq
    rcases hq with hq | hq | hq <;> cases hq

end Step

/-! ## Until the next call -/

/-- **What every turn of the worker of a run keeps, and other steps do not affect, holds of its
phase until the next call of its body.** -/
theorem Trail.phase_induction {P : List (Moment κ) → Phase κ → Prop} (hm : Trail setup s₀ m s)
    (hcall : m.any (Moment.isCall run) = false) (h₀ : s₀.phase? run = some f₀) (hP : P [] f₀)
    (hother : ∀ m x f, P m f → P (x :: m) f)
    (hturn : ∀ n s l s' t q, n <:+ m → Trail setup s₀ n s → n.any (Moment.isCall run) = false →
      System.Turned run l t q s s' → (∀ c, l ≠ .call run c) → P n t.point.phase →
        P (⟨s, l⟩ :: n) q.phase) :
    ∃ f, s.phase? run = some f ∧ P m f := by
  induction hm with
  | nil => exact ⟨f₀, h₀, hP⟩
  | @cons m s s' l hm hs ih =>
    rw [List.any_cons, Bool.or_eq_false_iff] at hcall
    have hsuffix : m <:+ ⟨s, l⟩ :: m := List.suffix_cons _ m
    obtain ⟨f, hf, hPf⟩ := ih hcall.2 fun n s l s' t q hn =>
      hturn n s l s' t q (hn.trans hsuffix)
    by_cases hl : l.worker? = some run
    · obtain ⟨t, q, ht⟩ := System.turned_of_step hl hs
      obtain ⟨h1, h2⟩ := ht.phase?
      obtain rfl : t.point.phase = f := Option.some.inj (h1.symm.trans hf)
      exact ⟨_, h2, hturn m s l s' t q hsuffix hm hcall.2 ht (Moment.ne_call hcall.1) hPf⟩
    · obtain he | ⟨-, hnone, -⟩ := (System.stepped_of_step hs).phase?_eq hl
      · exact ⟨f, he ▸ hf, hother m _ f hPf⟩
      · cases hnone.symm.trans hf

theorem Trail.stays_in_body (hm : Trail setup s₀ m s) (h₀ : s₀.phase? run = some (.body state))
    (hcall : m.any (Moment.isCall run) = false) : s.phase? run = some (.body state) := by
  obtain ⟨f, hf, rfl⟩ := hm.phase_induction (P := fun _ f => f = .body state) hcall h₀ rfl
    (fun _ _ _ h => h) fun _ _ _ _ _ _ _ _ _ ht hl h => ht.turn.body_cases hl h
  exact hf

/-- One of the steps `m` was taken in such a way, after the steps before it. -/
def Taken (Q : Moment κ → List (Moment κ) → Prop) (m : List (Moment κ)) : Prop :=
  ∃ m₂ x m₁, m = m₂ ++ x :: m₁ ∧ Q x m₁

theorem Taken.cons {Q : Moment κ → List (Moment κ) → Prop} (h : Taken Q m) (x : Moment κ) :
    Taken Q (x :: m) := by
  obtain ⟨m₂, y, m₁, rfl, h⟩ := h
  exact ⟨x :: m₂, y, m₁, rfl, h⟩

/-- How far a call is that began in the phase `f₀`, where `Q state` tells how the answer with which
the body goes on in `state` is decided. -/
def Stage (run : RunId) (f₀ : Phase κ) (Q : κ → Moment κ → List (Moment κ) → Prop)
    (m : List (Moment κ)) (f : Phase κ) : Prop :=
  f = f₀ ∨ (∃ state, f.GoesOn state ∧ Taken (Q state) m) ∨ m.any (Moment.isPanic run) = true

variable {Q : κ → Moment κ → List (Moment κ) → Prop}

/-- Unless a callback panics, a body that goes on has its answer from a step of the trail. -/
theorem Stage.taken (h : Stage run f₀ Q m f) (hf : f.GoesOn state) (h₀ : f₀.isUndecided = true)
    (hpanic : m.any (Moment.isPanic run) = false) : Taken (Q state) m := by
  obtain rfl | ⟨state', hf', htaken⟩ | hpanic' := h
  · rcases hf with rfl | rfl | rfl <;> cases h₀
  · exact hf'.eq hf ▸ htaken
  · rw [hpanic] at hpanic'
    cases hpanic'

theorem Stage.cons (h : Stage run f₀ Q m f) (x : Moment κ) : Stage run f₀ Q (x :: m) f := by
  obtain hfirst | ⟨state, hf, htaken⟩ | hpanic := h
  · exact .inl hfirst
  · exact .inr (.inl ⟨state, hf, htaken.cons x⟩)
  · exact .inr (.inr (by rw [List.any_cons, hpanic, Bool.or_true]))

theorem Stage.of_panicked {payload : Payload} (h : l = .panicked run payload) :
    Stage run f₀ Q (⟨s, l⟩ :: m) f := by
  refine .inr (.inr ?_)
  rw [h, List.any_cons]
  simp [Moment.isPanic]

/-- **A call is in its first phase until a turn of the worker decides its answer, with which the
body goes on, unless a callback panics.** -/
theorem Trail.stage (hm : Trail setup s₀ m s) (hcall : m.any (Moment.isCall run) = false)
    (h₀ : s₀.phase? run = some f₀)
    (hturn : ∀ n s l s' t q, n <:+ m → Trail setup s₀ n s → n.any (Moment.isCall run) = false →
      System.Turned run l t q s s' → t.point.phase = f₀ → q.phase = f₀ ∨
        (∃ state, q.phase.GoesOn state ∧ Q state ⟨s, l⟩ n) ∨ ∃ payload, l = .panicked run payload) :
    ∃ f, s.phase? run = some f ∧ Stage run f₀ Q m f := by
  refine hm.phase_induction hcall h₀ (.inl rfl) (fun m x f h => h.cons x)
    fun n s l s' t q hn hm hcall ht hl h => ?_
  obtain hfirst | ⟨state, hf, htaken⟩ | hpanic := h
  · obtain hstay | ⟨state, hq, htaken⟩ | ⟨payload, hpanic⟩ :=
      hturn n s l s' t q hn hm hcall ht hfirst
    · exact .inl hstay
    · exact .inr (.inl ⟨state, hq, [], _, n, rfl, htaken⟩)
    · exact .of_panicked hpanic
  · obtain hq | ⟨payload, hpanic⟩ := ht.turn.goesOn hl hf
    · exact .inr (.inl ⟨state, hq, htaken.cons _⟩)
    · exact .of_panicked hpanic
  · exact .inr (.inr (by rw [List.any_cons, hpanic, Bool.or_true]))

end RunControl
