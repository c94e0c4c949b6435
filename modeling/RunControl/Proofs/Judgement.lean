import RunControl.Proofs.LifeCycle

/-!
# The result of every run

* **`Trail.settles`**: a worker that is about to classify an outcome comes to a
  result on its own, also if a translator panics;
* **`judgement`**: the result of every run, whatever has been registered and however its body stops.
-/

namespace RunControl

variable {κ : Type} {setup : Setup κ} {s s' : System κ} {p : List (Moment κ)} {run : RunId}
  {outcome : Except Fault Unit} {registrations : List (FaultClass × Translator)}

/-- **A worker that is about to classify an outcome comes to its result on its own**, in one step,
or in two if a translator panics. -/
theorem Trail.settles {directory : String}
    (hp : Trail setup (System.initial setup directory) p s) (ha : s.aborted = false)
    (hq : s.point? run = some (.classifying outcome)) (elapsed : ℕ) :
    ∃ n s', n ≤ 2 ∧ s.steps setup (List.replicate n (.advance run elapsed)) = some s' ∧
      s'.point? run = some (.draining
        (.judge setup.translators setup.info (lastReported run p) elapsed outcome)) := by
  have hlast : s.control.position = lastReported run p :=
    hp.position_eq (f := .busy) (by rw [System.phase?, hq]; rfl) rfl
  obtain ⟨args, hstep⟩ := hp.reachable.orderly.step_advance hq rfl ha elapsed
  simp only [System.advance, hlast] at hstep
  cases hjudged : RunResult.ofOutcome setup.translators setup.info (lastReported run p) elapsed
      outcome with
  | ok result =>
    have hfirst : s.step setup (.advance run elapsed) = some (s.goto run (.draining result)) := by
      rw [hstep, hjudged]
    refine ⟨1, s.goto run (.draining result), by omega, ?_, ?_⟩
    · simp [List.replicate, System.steps, hfirst]
    · rw [RunResult.judge_of_ok hjudged]
      exact System.point?_goto hq
  | error payload =>
    let s₁ := s.goto run (.recovering payload.message)
    have hfirst : s.step setup (.advance run elapsed) = some s₁ := by rw [hstep, hjudged]
    have hq₁ : s₁.point? run = some (.recovering payload.message) := System.point?_goto hq
    obtain ⟨args', hsecond⟩ : ∃ args', s₁.step setup (.advance run elapsed) =
        s₁.advance setup run args' elapsed (.recovering payload.message) :=
      (hp.reachable.step hfirst).orderly.step_advance hq₁ rfl ha elapsed
    refine ⟨2, s₁.goto run (.draining (.ofPanic payload.message s₁.control.position elapsed)),
      by omega, ?_, ?_⟩
    · simp [List.replicate, System.steps, hfirst, hsecond, System.advance]
    · rw [RunResult.judge_of_error hjudged, ← hlast]
      exact System.point?_goto hq₁

/-- What the result of every run says, if these translators have been registered. Runs in whose
start an observer panics are left out. There is a verdict on any outcome with any last position. A
run that is done has finalized all libraries once, and its result is the verdict on the outcome of
its initialization and body. Classification comes to a result, also if a translator panics. -/
structure Judgement (setup : Setup κ) (registrations : List (FaultClass × Translator)) :
    Prop where
  verdict : ∀ last elapsed outcome, Verdict registrations setup.info last outcome
    (.judge setup.translators setup.info last elapsed outcome)
  whole : ∀ directory p s run, Trail setup (System.initial setup directory) p s →
    p.any (Moment.startPanics run) = false → s.point? run = some .done →
      ∃ outcome result, Life setup (lastReported run p) (milestones run p) outcome result ∧
        Verdict registrations setup.info (lastReported run p) outcome result
  settles : ∀ directory p s run outcome elapsed,
    Trail setup (System.initial setup directory) p s → s.aborted = false →
      s.point? run = some (.classifying outcome) →
        ∃ n s', n ≤ 2 ∧ s.steps setup (List.replicate n (.advance run elapsed)) = some s' ∧
          s'.point? run = some (.draining
            (.judge setup.translators setup.info (lastReported run p) elapsed outcome))

/-- **The result of every run is the verdict on its outcome.** -/
theorem judgement (h : setup.translators = .ofList registrations) :
    Judgement setup registrations := by
  have hverdict : ∀ last elapsed outcome, Verdict registrations setup.info last outcome
      (.judge setup.translators setup.info last elapsed outcome) := fun last elapsed outcome => by
    rw [h]
    exact verdict_judge registrations setup.info last elapsed outcome
  refine
    { verdict := hverdict
      whole := fun directory p s run hp hstart hq => ?_
      settles := fun _ _ _ _ _ elapsed hp ha hq => hp.settles ha hq elapsed }
  obtain ⟨outcome, result, hlife⟩ := (hp.course hstart).2 .done hq
  obtain ⟨elapsed, rfl⟩ := hlife.judged
  exact ⟨outcome, _, hlife, hverdict _ elapsed outcome⟩

/-! ## A translator that panics -/

/-- Of two translators for a class the later one panics. -/
def twoTranslators : List (FaultClass × Translator) :=
  [(.arithmetic, Translator.arithmetic), (.arithmetic, fun _ _ _ => .error (.text "no words"))]

/-- A program with a library and these translators. -/
def speechless : Setup Unit :=
  { Setup.bare () with libraries := ["math"], translators := .ofList twoTranslators }

/-- The body reports a position and divides by zero. -/
def dividedByZero : List (Label Unit) :=
  [.act (.controller 0) (.start [] .stopped), .complete (.controller 0), .advance 0 0,
    .advance 0 0, .advance 0 0, .returned 0, .advance 0 0,
    .call 0 (.pausePoint ⟨2, 5⟩ fun _ => ()),
    .call 0 (.finish (.error (.runtime .divisionByZero))), .returned 0, .advance 0 0, .advance 0 0,
    .advance 0 0, .advance 0 0, .advance 0 0, .advance 0 0]

theorem judgement_dividedByZero :
    let s₀ := System.initial speechless ""
    let p := s₀.moments speechless dividedByZero
    let fault : Fault := .runtime .divisionByZero
    speechless.translators = .ofList twoTranslators ∧
    ∃ s, s₀.steps speechless dividedByZero = some s ∧ s.point? 0 = some .done ∧
      p.any (Moment.startPanics 0) = false ∧ lastReported 0 p = ⟨2, 5⟩ ∧
      milestones 0 p = [.told .started, .initialized "math" .returned, .begun,
        .stopped (.error fault), .finalized "math" .returned, .classified (.error fault),
        .told (.ended (.failed ((Diagnostic.unhandled "no words").place ⟨2, 5⟩) 0))] ∧
      ∃ outcome result, Life speechless (lastReported 0 p) (milestones 0 p) outcome result ∧
        Verdict twoTranslators speechless.info (lastReported 0 p) outcome result :=
  ⟨rfl, _, rfl, rfl, rfl, rfl, rfl,
    (show Judgement speechless twoTranslators from judgement rfl).whole _ _ _ _
      (trail_of_steps rfl) rfl rfl⟩

end RunControl
