import RunControl.Proofs.Steps

/-!
# Trails

A trail is a sequence of steps that a system takes, kept with the state in which each was taken. It
stands for everything that has happened, in whatever order the threads came: a `Moment` tells
whether a start, a resume or an interrupt was accepted, a handle settled, a run finished.

* `Moment`, `Trail`, `Reachable`, with `trail_of_steps`: the runs of `System.steps` are trails;
* `during`: the moments of one run;
* **`Trail.generation_eq`**, **`Trail.interrupted_eq`**: the generation of resumes counts the
  resumes of a trail, and the flag of an interrupt is up when one was accepted since the last start.
-/

namespace RunControl

variable {κ : Type}

/-- A step and the state in which it was taken. -/
structure Moment (κ : Type) where
  state : System κ
  label : Label κ

namespace Moment

/-- A start is accepted. -/
def starts (x : Moment κ) : Bool :=
  match x.label with
  | .act _ (.start _ mode) => (x.state.control.start mode).isSome
  | _ => false

/-- A resume is accepted. -/
def resumes (x : Moment κ) : Bool :=
  match x.label with
  | .act _ (.resume mode) => (x.state.control.resume mode).isSome
  | _ => false

/-- An interrupt is accepted. -/
def interrupts (x : Moment κ) : Bool :=
  match x.label with
  | .act _ .interrupt => x.state.control.interrupt.isSome
  | _ => false

/-- A read is opened. -/
def opens (x : Moment κ) : Bool :=
  match x.label with
  | .call _ (.read _ _) => x.state.control.openRead.isSome
  | _ => false

/-- The handle with the ticket, not used before, is settled: by a value or by a refusal. -/
def settlement? (ticket : UInt64) (x : Moment κ) : Option (Option Value) :=
  match x.label with
  | .act _ (.settle k answer) =>
    if k = ticket ∧ ticket ∈ x.state.handles then some answer else none
  | _ => none

/-- The body of a run makes a call. -/
def isCall (run : RunId) (x : Moment κ) : Bool :=
  match x.label with
  | .call r _ => r = run
  | _ => false

/-- A callback on the worker of a run panics. -/
def isPanic (run : RunId) (x : Moment κ) : Bool :=
  match x.label with
  | .panicked r _ => r = run
  | _ => false

/-- The result with which a run stops being alive. -/
def result? (run : RunId) (x : Moment κ) : Option RunResult :=
  match x.label, x.state.phase? run with
  | .advance r _, some (.finishing result) => if r = run then some result else none
  | _, _ => none

end Moment

/-- The steps of `m`, the latest first, lead from `s₀` to a state. -/
inductive Trail (setup : Setup κ) (s₀ : System κ) : List (Moment κ) → System κ → Prop
  | nil : Trail setup s₀ [] s₀
  | cons {m : List (Moment κ)} {s s' : System κ} {l : Label κ} :
    Trail setup s₀ m s → s.step setup l = some s' → Trail setup s₀ (⟨s, l⟩ :: m) s'

/-- A state in which a supervisor can be, whatever its threads have done. -/
def Reachable (setup : Setup κ) (s : System κ) : Prop :=
  ∃ directory m, Trail setup (System.initial setup directory) m s

/-- How the handle with the ticket has been settled, the latest first. -/
def settlements (ticket : UInt64) (p : List (Moment κ)) : List (Option Value) :=
  p.filterMap (Moment.settlement? ticket)

/-- The results with which a run has stopped being alive. -/
def results (run : RunId) (p : List (Moment κ)) : List RunResult :=
  p.filterMap (Moment.result? run)

theorem results_cons (run : RunId) (x : Moment κ) (p : List (Moment κ)) :
    results run (x :: p) = (x.result? run).toList ++ results run p := by
  unfold results
  cases h : x.result? run <;> simp [h]

variable {setup : Setup κ} {s₀ s s' : System κ} {m p : List (Moment κ)} {l : Label κ}

namespace Trail

theorem append (hp : Trail setup s₀ p s) (hm : Trail setup s m s') :
    Trail setup s₀ (m ++ p) s' := by
  induction hm with
  | nil => exact hp
  | cons _ hs ih => exact ih.cons hs

theorem invariant {I : System κ → Prop} (hm : Trail setup s₀ m s) (h₀ : I s₀)
    (hI : ∀ {s l s'}, I s → s.step setup l = some s' → I s') : I s := by
  induction hm with
  | nil => exact h₀
  | cons _ hs ih => exact hI ih hs

end Trail

theorem Reachable.invariant {I : System κ → Prop} (hr : Reachable setup s)
    (h₀ : ∀ directory, I (System.initial setup directory))
    (hI : ∀ {s l s'}, I s → s.step setup l = some s' → I s') : I s := by
  obtain ⟨directory, m, hm⟩ := hr
  exact hm.invariant (h₀ directory) hI

theorem Reachable.step (hr : Reachable setup s) (h : s.step setup l = some s') :
    Reachable setup s' := by
  obtain ⟨directory, m, hm⟩ := hr
  exact ⟨directory, _, hm.cons h⟩

theorem Trail.reachable {directory : String}
    (hm : Trail setup (System.initial setup directory) m s) : Reachable setup s :=
  ⟨directory, m, hm⟩

theorem Trail.reachable_append (hm : Trail setup s m s') (hr : Reachable setup s) :
    Reachable setup s' := by
  obtain ⟨directory, p, hp⟩ := hr
  exact ⟨directory, _, hp.append hm⟩

/-- The moments of a run of `System.steps`, the latest first. -/
def System.moments (setup : Setup κ) (s : System κ) : List (Label κ) → List (Moment κ)
  | [] => []
  | l :: rest => match s.step setup l with
    | some s' => s'.moments setup rest ++ [⟨s, l⟩]
    | none => []

/-- **The runs of `System.steps` are trails.** -/
theorem trail_of_steps {labels : List (Label κ)} (h : s.steps setup labels = some s') :
    Trail setup s (s.moments setup labels) s' := by
  induction labels generalizing s with
  | nil =>
    obtain rfl := Option.some.inj h
    exact .nil
  | cons l labels ih =>
    obtain ⟨s₁, hs, h⟩ := Option.bind_eq_some_iff.1 h
    rw [System.moments, hs]
    exact (Trail.nil.cons hs).append (ih h)

/-- A program of three lines without libraries, whose body begins in the state. -/
def Setup.bare (state : κ) : Setup κ where
  info := ProgramInfo.plain "bare" 3
  libraries := []
  translators := Translators.empty
  entry _ _ := state

/-- Start a run, hand it to the pool and go to the body. -/
def toBody (mode : DebugMode) : List (Label κ) :=
  [.act (.controller 0) (.start [] mode), .complete (.controller 0), .advance 0 0, .advance 0 0,
    .advance 0 0, .advance 0 0]

/-! ## What a moment changes -/

section Step

variable {c c' : Control} {hs hs' : List UInt64} {run : RunId} {q q' : Point κ}

theorem Turn.generation (h : Turn run l c hs q c' hs' q') : c'.generation = c.generation := by
  cases h with
  | openRead ho => rw [(Control.openRead_eq_some_iff.1 ho).2]
  | take => exact Control.generation_takeAnswer _
  | _ => rfl

theorem Turn.interrupted (h : Turn run l c hs q c' hs' q') : c'.interrupted = c.interrupted := by
  cases h with
  | openRead ho => rw [(Control.openRead_eq_some_iff.1 ho).2]
  | take => exact Control.interrupted_takeAnswer _
  | _ => rfl

theorem Moment.not_of_not_act (hl : ∀ t a, l ≠ .act t a) :
    (Moment.mk s l).starts = false ∧ (Moment.mk s l).resumes = false ∧
      (Moment.mk s l).interrupts = false := by
  cases l with
  | act t a => exact absurd rfl (hl t a)
  | _ => exact ⟨rfl, rfl, rfl⟩

theorem Moment.settlement?_of_not_act (hl : ∀ t a, l ≠ .act t a) (ticket : UInt64) :
    (Moment.mk s l).settlement? ticket = none := by
  cases l with
  | act t a => exact absurd rfl (hl t a)
  | _ => rfl

theorem Label.not_act_of_worker (hl : l.worker? = some run) (t : Thread) (a : Action) :
    l ≠ .act t a := by
  rintro rfl
  simp [worker?] at hl

theorem generation_of_step (h : s.step setup l = some s') :
    s'.control.generation =
      s.control.generation + if (Moment.mk s l).resumes then 1 else 0 := by
  cases System.stepped_of_step h with
  | @act t a _ _ ha =>
    generalize s'.control = c', s'.handles = hs' at ha
    cases ha with
    | start hc => simp [(Control.start_eq_some_iff.1 hc).2, Moment.resumes]
    | @resume mode _ hc =>
      have hx : (Moment.mk s (.act t (.resume mode))).resumes = true :=
        Option.isSome_of_eq_some hc
      rw [hx, (Control.resume_eq_some_iff.1 hc).2, if_pos rfl]
    | interrupt hc => simp [(Control.interrupt_eq_some_iff.1 hc).2, Moment.resumes]
    | settle _ hc => simp [(Control.settle_eq_some_iff.1 hc).2, Moment.resumes]
    | late | activate => simp [Moment.resumes, Control.activate]
    | other _ hr => cases a <;> simp [Moment.resumes, hr]
  | notify _ hc | submit _ hc => simp [hc, Moment.resumes]
  | wake _ _ hc => simp [hc, Moment.resumes]
  | turn hl ht =>
    rw [ht.turn.generation, (Moment.not_of_not_act (Label.not_act_of_worker hl)).2.1]
    simp

theorem interrupted_of_step (h : s.step setup l = some s') :
    s'.control.interrupted =
      (!(Moment.mk s l).starts && (s.control.interrupted || (Moment.mk s l).interrupts)) := by
  cases System.stepped_of_step h with
  | @act t a _ _ ha =>
    generalize s'.control = c', s'.handles = hs' at ha
    cases ha with
    | @start args mode _ hc =>
      have hx : (Moment.mk s (.act t (.start args mode))).starts = true :=
        Option.isSome_of_eq_some hc
      rw [hx, (Control.start_eq_some_iff.1 hc).2]
      rfl
    | resume hc => simp [(Control.resume_eq_some_iff.1 hc).2, Moment.starts, Moment.interrupts]
    | interrupt hc =>
      have hx : (Moment.mk s (.act t .interrupt)).interrupts = true := Option.isSome_of_eq_some hc
      rw [hx, (Control.interrupt_eq_some_iff.1 hc).2, Bool.or_true]
      rfl
    | settle _ hc => simp [(Control.settle_eq_some_iff.1 hc).2, Moment.starts, Moment.interrupts]
    | late | activate => simp [Moment.starts, Moment.interrupts, Control.activate]
    | other hst _ hi => cases a <;> simp_all [Moment.starts, Moment.interrupts]
  | notify _ hc | submit _ hc => simp [hc, Moment.starts, Moment.interrupts]
  | wake _ _ hc => simp [hc, Moment.starts, Moment.interrupts]
  | turn hl ht =>
    obtain ⟨h1, -, h3⟩ := Moment.not_of_not_act (s := s) (Label.not_act_of_worker hl)
    rw [ht.turn.interrupted, h1, h3]
    simp

end Step

/-- **The generation of resumes counts them**, in 64 bits. -/
theorem Trail.generation_eq (hm : Trail setup s₀ m s) :
    s.control.generation = s₀.control.generation + UInt64.ofNat (m.countP Moment.resumes) := by
  induction hm with
  | nil => simp
  | cons _ hs ih =>
    rw [generation_of_step hs, ih, List.countP_cons]
    split_ifs <;> simp [UInt64.ofNat_add, UInt64.add_assoc]

/-! ## The moments of a run -/

/-- The moments of a run: those after its start was accepted, the next start included. -/
def during (run : RunId) : List (Moment κ) → List (Moment κ)
  | [] => []
  | x :: p => if p.countP Moment.starts = run + 1 then x :: during run p else during run p

theorem during_eq_nil {run : RunId} (h : p.countP Moment.starts ≤ run) : during run p = [] := by
  induction p with
  | nil => rfl
  | cons x p ih =>
    have hle : p.countP Moment.starts ≤ run := by
      rw [List.countP_cons] at h
      omega
    rw [during, if_neg (by omega), ih hle]

/-- **The flag of an interrupt is up exactly when one was accepted in the run.** -/
theorem Trail.interrupted_eq {directory : String} {run : RunId}
    (hp : Trail setup (System.initial setup directory) p s)
    (hrun : p.countP Moment.starts = run + 1) :
    s.control.interrupted = (during run p).any Moment.interrupts := by
  induction hp with
  | nil => simp at hrun
  | @cons p s s' l _ hs ih =>
    rw [interrupted_of_step hs]
    rw [List.countP_cons] at hrun
    cases hst : (Moment.mk s l).starts with
    | true =>
      have hle : p.countP Moment.starts = run := by simpa [hst] using hrun
      rw [during, if_neg (by omega), during_eq_nil (Nat.le_of_eq hle)]
      rfl
    | false =>
      have heq : p.countP Moment.starts = run + 1 := by simpa [hst] using hrun
      rw [during, if_pos heq, List.any_cons, ih heq, Bool.or_comm]
      rfl

end RunControl
