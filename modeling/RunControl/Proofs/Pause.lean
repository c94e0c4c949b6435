import RunControl.Proofs.Answer

/-!
# The handshake of a pause

A worker that decides to pause remembers the generation of resumes, tells the observers, and then
waits. Between, and until the pause is left, resumes and interrupts may come in any order.

* **`Trail.isHeld_eq`**: the condition of the pause holds as long as neither has come;
* `Turn.pausing_cases`, `Trail.pauseStage`: how a pause goes on, and how it ends;
* **`Trail.handshake`**: what a call of a pause point comes to, in every run.
-/

namespace RunControl

variable {κ : Type} {setup : Setup κ} {s s₀ s₁ s₂ s' : System κ} {m p : List (Moment κ)}
  {l : Label κ} {run : RunId} {hold : Hold κ} {state : κ}

/-! ## The condition -/

theorem generation_add_eq_iff {g : UInt64} {n : Nat} (h : n < UInt64.size) :
    g + UInt64.ofNat n = g ↔ n = 0 := by
  rw [UInt64.add_eq_left, ← UInt64.toNat_inj, UInt64.toNat_ofNat_of_lt' h]
  rfl

/-- **The condition of a pause holds as long as neither a resume nor an interrupt has come since the
decision.** -/
theorem Trail.isHeld_eq (hm : Trail setup s₀ m s) (hzero : m.countP Moment.starts = 0)
    (hi : s₀.control.interrupted = false) (hfew : m.countP Moment.resumes < UInt64.size) :
    s.control.isHeld s₀.control.generation = m.all Moment.isQuiet := by
  have hresumes : m.countP Moment.resumes = 0 ↔ m.any Moment.resumes = false := by
    rw [List.countP_eq_zero, List.any_eq_false]
  rw [Bool.eq_iff_iff, Control.isHeld_iff, all_isQuiet_iff, hm.generation_eq,
    generation_add_eq_iff hfew, hresumes, hm.interrupted_eq_any hzero, hi, Bool.false_or]

/-! ## How a pause goes on -/

section Step

variable {c c' : Control} {hs hs' : List UInt64} {q q' : Point κ}

/-- A worker that pauses goes on pausing, or a callback panics, or it finds the pause to be over. -/
theorem Turn.pausing_cases (h : Turn run l c hs q c' hs' q') (hq : q.phase = .pausing hold) :
    q'.phase = .pausing hold ∨ (∃ payload, l = .panicked run payload) ∨
      q = .holding hold ∧ (∃ elapsed, l = .advance run elapsed) ∧
        c.isHeld hold.generation = false ∧
        q'.phase = .returning
          (hold.next (if c.interrupted then .error .interrupted else .ok ())) := by
  cases h with
  | pass hp =>
    obtain hstay | hpanic := (hq ▸ hp.moves).of_pausing
    · exact .inl hstay
    · exact .inr (.inl hpanic)
  | park => exact .inl (by rw [Point.phase_sleep, hq])
  | @release _ _ hold' elapsed hb =>
    obtain rfl : hold' = hold := by simpa [Point.phase] using hq
    exact .inr (.inr ⟨rfl, ⟨elapsed, rfl⟩, hb, rfl⟩)
  | take hp => rcases hp with rfl | rfl <;> cases hq
  | unwind hp => cases hp.symm.trans hq
  | _ => cases hq

end Step

/-! ## The end of a pause -/

/-- What a pause point answers after the steps `m`. -/
def pauseAnswer (m : List (Moment κ)) : Except Fault Unit :=
  if m.any Moment.interrupts then .error .interrupted else .ok ()

/-- The last test of a pause, after the steps `m` since the decision: a resume or an interrupt has
come, and the answer tells whether an interrupt has. -/
structure Released (run : RunId) (hold : Hold κ) (state : κ) (x : Moment κ) (m : List (Moment κ)) :
    Prop where
  label : ∃ elapsed, x.label = .advance run elapsed
  point : x.state.point? run = some (.holding hold)
  cause : m.all Moment.isQuiet = false
  answer : state = hold.next (pauseAnswer m)

/-- **A pause goes on, or has been released by a resume or an interrupt, or a callback has
panicked.** -/
theorem Trail.pauseStage (hm : Trail setup s₀ m s) (hr : Reachable setup s₀)
    (h₀ : s₀.phase? run = some (.pausing hold)) (hgen : s₀.control.generation = hold.generation)
    (hi : s₀.control.interrupted = false) (hcall : m.any (Moment.isCall run) = false)
    (hfew : m.countP Moment.resumes < UInt64.size) :
    ∃ f, s.phase? run = some f ∧ Stage run (.pausing hold) (Released run hold) m f := by
  refine hm.stage hcall h₀ fun n s l s' t q hn hm hcall ht hpausing => ?_
  obtain hstay | hpanic | ⟨hq, helapsed, hb, hleft⟩ := ht.turn.pausing_cases hpausing
  · exact .inl hstay
  · exact .inr (.inr hpanic)
  · -- the last test: the condition tells what has come since the decision
    have hzero := (hm.within hr hcall (hpausing ▸ ht.phase?.1) rfl).1
    have hquiet := hm.isHeld_eq hzero hi (Nat.lt_of_le_of_lt hn.sublist.countP_le hfew)
    have hint := hm.interrupted_eq_any hzero
    rw [hgen, hb] at hquiet
    rw [hi, Bool.false_or] at hint
    refine .inr (.inl ⟨_, .inr (.inl hleft), helapsed, ?_, hquiet.symm, ?_⟩)
    · rw [System.point?, ht.task, Option.map_some, hq]
    · rw [pauseAnswer, hint]

/-! ## The handshake -/

section Handshake

variable {position : Position} {next : Except Fault Unit → κ}

/-- The worker that reports a position, after the steps `p`, decides to pause there. -/
def decidesToPause (run : RunId) (p : List (Moment κ)) (s : System κ) (position : Position) :
    Bool :=
  !(during run p).any Moment.interrupts && s.control.canPause position.line

theorem call_pausePoint (h : s.step setup (.call run (.pausePoint position next)) = some s₁) :
    (∃ state, s.phase? run = some (.body state)) ∧
      s₁.control = { s.control with position } ∧
      s₁.point? run = some (if !s.control.interrupted && s.control.canPause position.line
        then .announcing .paused (.highlight ⟨s.control.generation, position.line, next⟩)
        else .body (next (if s.control.interrupted then .error .interrupted else .ok ()))) := by
  obtain ⟨state, hp, rfl⟩ := System.step_call h
  refine ⟨⟨state, by rw [System.phase?, hp]; rfl⟩, rfl, ?_⟩
  have hp' : ({ s with control := { s.control with position } } : System κ).point? run =
      some (.body state) := hp
  simp only [System.call, Control.reach]
  rw [System.point?_goto hp']
  cases s.control.interrupted <;> cases s.control.canPause position.line <;> rfl

theorem step_holding {elapsed : Nat} (ho : Orderly s) (h : s.point? run = some (.holding hold))
    (ha : s.aborted = false) :
    ∃ s', s.step setup (.advance run elapsed) = some s' ∧
      s'.point? run = some (if s.control.isHeld hold.generation then .held hold
        else .announcing .resumed (.proceed
          (hold.next (if s.control.interrupted then .error .interrupted else .ok ())))) := by
  obtain ⟨args, hstep⟩ := ho.step_advance h rfl ha elapsed
  rw [hstep]
  cases hb : s.control.isHeld hold.generation with
  | true => exact ⟨_, by simp only [System.advance, hb, if_true], System.point?_goto h⟩
  | false =>
    exact ⟨_, by simp only [System.advance, hb, Bool.false_eq_true, if_false],
      System.point?_goto h⟩

/-- What becomes of a call of a pause point. The steps `p` lead to the state `s` of the call, the
call to `s₁`, and the steps `m`, without another call of the body, to `s₂`. The worker decides to
pause, or the call is answered at once. The condition of the pause holds exactly when no resume and
no interrupt has been accepted since the decision. A worker that tests it sleeps, or goes on with an
answer which tells whether an interrupt has been accepted; unless a callback panics, this is what
the body gets. -/
structure Handshake (setup : Setup κ) (run : RunId) (position : Position)
    (next : Except Fault Unit → κ) (p : List (Moment κ)) (s s₁ : System κ) (m : List (Moment κ))
    (s₂ : System κ) : Prop where
  decided : s₁.point? run = some (if decidesToPause run p s position
    then .announcing .paused (.highlight ⟨s.control.generation, position.line, next⟩)
    else .body (next (pauseAnswer (during run p))))
  held : ∀ f, s₂.phase? run = some f → f.isWithin = true →
    s₂.control.isHeld s.control.generation = m.all Moment.isQuiet
  hold : ∀ h, s₂.phase? run = some (.pausing h) → h = ⟨s.control.generation, position.line, next⟩
  tested : ∀ h elapsed, s₂.point? run = some (.holding h) → s₂.aborted = false →
    ∃ s₃, s₂.step setup (.advance run elapsed) = some s₃ ∧
      s₃.point? run = some (if m.all Moment.isQuiet then .held h
        else .announcing .resumed (.proceed (next (pauseAnswer m))))
  returned : ∀ f state, s₂.phase? run = some f → f.GoesOn state →
    m.any (Moment.isPanic run) = false →
    if decidesToPause run p s position
      then Taken (Released run ⟨s.control.generation, position.line, next⟩ state) m
      else state = next (pauseAnswer (during run p))

theorem Trail.handshake_of_decided (hr : Reachable setup s₁)
    (hd : decidesToPause run p s position = true)
    (hpoint : s₁.point? run =
      some (.announcing .paused (.highlight ⟨s.control.generation, position.line, next⟩)))
    (hgen : s₁.control.generation = s.control.generation) (hi : s₁.control.interrupted = false)
    (hm : Trail setup s₁ m s₂) (hcall : m.any (Moment.isCall run) = false)
    (hfew : m.countP Moment.resumes < UInt64.size) :
    Handshake setup run position next p s s₁ m s₂ := by
  have h₀ : s₁.phase? run = some (.pausing ⟨s.control.generation, position.line, next⟩) := by
    rw [System.phase?, hpoint]
    rfl
  have hheld : ∀ f, s₂.phase? run = some f → f.isWithin = true →
      s₂.control.isHeld s.control.generation = m.all Moment.isQuiet := by
    intro f hf hw
    rw [← hgen, hm.isHeld_eq (hm.within hr hcall hf hw).1 hi hfew]
  have hhold : ∀ h, s₂.phase? run = some (.pausing h) →
      h = ⟨s.control.generation, position.line, next⟩ := fun h hf =>
    Phase.pausing.inj (Option.some.inj ((hm.undecided hcall hf rfl).symm.trans h₀))
  refine ⟨by rw [if_pos hd, hpoint], hheld, hhold, fun h elapsed hh ha => ?_,
    fun f state hf hgoes hpanic => ?_⟩
  · have hf : s₂.phase? run = some (.pausing h) := by
      rw [System.phase?, hh]
      rfl
    have hquiet := hheld _ hf rfl
    have hint := hm.interrupted_eq_any (hm.within hr hcall hf rfl).1
    rw [hi, Bool.false_or] at hint
    obtain ⟨s₃, hs, hpoint⟩ := step_holding (hm.reachable_append hr).orderly hh ha
    obtain rfl := hhold h hf
    refine ⟨s₃, hs, ?_⟩
    rw [hpoint, hquiet, pauseAnswer, hint]
  · rw [if_pos hd]
    obtain ⟨f', hf', hstage⟩ := hm.pauseStage hr h₀ hgen hi hcall hfew
    obtain rfl := Option.some.inj (hf.symm.trans hf')
    exact hstage.taken hgoes rfl hpanic

theorem Trail.handshake_of_passed (hd : decidesToPause run p s position = false)
    (hpoint : s₁.point? run = some (.body (next (pauseAnswer (during run p)))))
    (hm : Trail setup s₁ m s₂) (hcall : m.any (Moment.isCall run) = false) :
    Handshake setup run position next p s s₁ m s₂ := by
  have h₀ : s₁.phase? run = some (.body (next (pauseAnswer (during run p)))) := by
    rw [System.phase?, hpoint]
    rfl
  have hstay := hm.stays_in_body h₀ hcall
  refine ⟨by simp [hd, hpoint], fun f hf hw => ?_, fun h hf => ?_, fun h elapsed hh _ => ?_,
    fun f state hf hgoes _ => ?_⟩
  · obtain rfl := Option.some.inj (hstay.symm.trans hf)
    cases hw
  · cases hstay.symm.trans hf
  · rw [System.phase?, hh] at hstay
    cases hstay
  · obtain rfl := Option.some.inj (hstay.symm.trans hf)
    rw [hd]
    exact hgoes.eq (.inr (.inr rfl))

/-- **A pause ends by a resume or an interrupt that is accepted after the decision, and only so; it
answers that it was interrupted exactly when an interrupt was accepted before its last test.** -/
theorem Trail.handshake {directory : String}
    (hp : Trail setup (System.initial setup directory) p s)
    (hs : s.step setup (.call run (.pausePoint position next)) = some s₁)
    (hm : Trail setup s₁ m s₂) (hcall : m.any (Moment.isCall run) = false)
    (hfew : m.countP Moment.resumes < UInt64.size) :
    Handshake setup run position next p s s₁ m s₂ := by
  obtain ⟨⟨state₀, hbody⟩, hcontrol, hpoint⟩ := call_pausePoint hs
  have hint := hp.interrupted_of_phase hbody rfl
  cases hd : decidesToPause run p s position with
  | true =>
    have hi : s.control.interrupted = false := by
      rw [decidesToPause, Bool.and_eq_true, Bool.not_eq_true', ← hint] at hd
      exact hd.1
    refine hm.handshake_of_decided (hp.reachable.step hs) hd ?_ (by rw [hcontrol])
      (by rw [hcontrol]; exact hi) hcall hfew
    rw [hpoint, hint]
    exact congrArg some (if_pos hd)
  | false =>
    refine hm.handshake_of_passed hd ?_ hcall
    rw [hpoint, hint]
    exact congrArg some (if_neg (by simpa [decidesToPause] using hd))

end Handshake

/-- From the decision to pause back to the body: a resume comes before the worker waits. -/
def earlyResume : List (Label (Except Fault Unit)) :=
  [.advance 0 0, .act (.controller 1) (.resume .stopped), .complete (.controller 1), .advance 0 0,
    .advance 0 0, .advance 0 0, .advance 0 0, .advance 0 0, .advance 0 0]

theorem handshake_earlyResume :
    let setup : Setup (Except Fault Unit) := Setup.bare (.error .interrupted)
    let s₀ := System.initial setup ""
    ∃ s s₁ s₂, s₀.steps setup (toBody .stepInto) = some s ∧
      s.step setup (.call 0 (.pausePoint ⟨1, 1⟩ fun answer => answer)) = some s₁ ∧
      s₁.steps setup earlyResume = some s₂ ∧ s₂.point? 0 = some (.body (.ok ())) ∧
      Handshake setup 0 ⟨1, 1⟩ (fun answer => answer) (s₀.moments setup (toBody .stepInto)) s s₁
        (s₁.moments setup earlyResume) s₂ :=
  ⟨_, _, _, rfl, rfl, rfl, rfl, Trail.handshake (trail_of_steps rfl) rfl (trail_of_steps rfl) rfl
    (show 1 < UInt64.size by decide)⟩

end RunControl
