import RunControl.Proofs.Classification
import RunControl.Proofs.Position

/-!
# The chapters of a run

A run goes through the same chapters whatever happens in it: the observers are told of the start,
the libraries are initialized, the body runs, the libraries are finalized, and the outcome is
classified. A `Milestone` is passed where something of this has been done.

* `Chapter`, `Point.chapter`, `Milestone`, `Point.milestone?`, `milestones`;
* `Chapter.Follows`, **`System.follows_of_step`**: what one step does to the chapter of a run, with
  the milestone that is passed and the last position that the run has reported.
-/

namespace RunControl

variable {κ : Type}

/-! ## Chapters and milestones -/

/-- How far a run is, and what is known of its end there. `starting` and `concluded` are left when
all observers have been told; the lists are libraries still to be called; `recovering` is a panic
that was caught outside the body. -/
inductive Chapter
  | starting (notice : Notice)
  | initializing (left : List String)
  | body
  | finalizing (left : List String) (outcome : Except Fault Unit)
  | classifying (outcome : Except Fault Unit)
  | recovering (message : String)
  | concluded (result : RunResult)
  | done

/-- The chapter to which a notification belongs. -/
def AfterNotice.chapter (notice : Notice) : AfterNotice κ → Chapter
  | libraries => .starting notice
  | _ => .body

/-- The chapter to which a place belongs. -/
def Point.chapter : Point κ → Chapter
  | queued => .starting .started
  | announcing notice after | telling notice _ after => after.chapter notice
  | initializing left => .initializing left
  | finalizing left outcome => .finalizing left outcome
  | classifying outcome => .classifying outcome
  | recovering message => .recovering message
  | draining result | finishing result _ | ending result _ => .concluded result
  | done => .done
  | _ => .body

/-- How a callback of a library ends. -/
inductive LibraryExit
  | returned
  | failed (error : LibraryError)
  | panicked (payload : Payload)

/-- The error with which a library refuses to start. -/
def LibraryExit.error? (library : String) : LibraryExit → Option LibraryError
  | returned => none
  | failed error => some error
  | panicked payload => some ⟨library, "panicked during initialization: " ++ payload.message⟩

/-- Something that is done once in a run: all observers have been told of the start or of the end, a
library has ended its initialization or finalization, the body begins or has stopped. -/
inductive Milestone
  | told (notice : Notice)
  | initialized (library : String) (exit : LibraryExit)
  | begun
  | stopped (outcome : Except Fault Unit)
  | finalized (library : String) (exit : LibraryExit)
  | classified (outcome : Except Fault Unit)

/-- How the step says that the callback of a library ends. -/
def Label.exit? : Label κ → Option LibraryExit
  | .returned _ => some .returned
  | .libraryFailed _ error => some (.failed error)
  | .panicked _ payload => some (.panicked payload)
  | _ => none

/-- The milestone that is passed by a step of the worker at the place. -/
def Point.milestone? : Point κ → Label κ → Option Milestone
  | .telling notice [] .libraries, _ => some (.told notice)
  | .initializing (library :: _), l => l.exit?.map (.initialized library)
  | .initializing [], _ => some .begun
  | .body _, .call _ (.finish outcome) => some (.stopped outcome)
  | .body _, .call _ (.panic payload) => some (.stopped (.error (.panic payload.message)))
  | .unwinding message, .advance _ _ => some (.stopped (.error (.panic message)))
  | .finalizing (library :: _) _, l => l.exit?.map (.finalized library)
  | .classifying outcome, _ => some (.classified outcome)
  | .ending result [], _ => some (.told (.ended result))
  | _, _ => none

namespace Moment

/-- The milestone of the run that is passed. -/
def milestone? (run : RunId) (x : Moment κ) : Option Milestone :=
  if x.label.worker? = some run then (x.state.point? run).bind fun q => q.milestone? x.label
  else none

/-- An observer panics while it is told that the run starts. -/
def startPanics (run : RunId) (x : Moment κ) : Bool :=
  match x.label, x.state.point? run with
  | .panicked r _, some (.telling _ (_ :: _) .libraries) => r = run
  | _, _ => false

end Moment

/-- The milestones that a run has passed, in order. -/
def milestones (run : RunId) (p : List (Moment κ)) : List Milestone :=
  (p.filterMap (Moment.milestone? run)).reverse

variable {setup : Setup κ} {s s' s₁ : System κ} {p : List (Moment κ)} {l : Label κ} {run : RunId}
  {args : List String} {q q' : Point κ} {last : Position} {x : Moment κ}

theorem milestones_cons :
    milestones run (x :: p) = milestones run p ++ (x.milestone? run).toList := by
  unfold milestones
  cases h : x.milestone? run with
  | none => rw [List.filterMap_cons_none h, Option.toList_none, List.append_nil]
  | some m => rw [List.filterMap_cons_some h, List.reverse_cons, Option.toList_some]

/-! ## From chapter to chapter -/

/-- What one step does to the last reported position and to the chapter of a run, with the milestone
that is passed. -/
inductive Chapter.Follows (setup : Setup κ) :
    Position → Chapter → Option Milestone → Position → Chapter → Prop
  | stay {last : Position} {c : Chapter} : Follows setup last c none last c
  | report {last last' : Position} : Follows setup last .body none last' .body
  | start {last : Position} {notice : Notice} :
    Follows setup last (.starting notice) (some (.told notice)) last
      (.initializing setup.libraries)
  | prepare {last : Position} {library : String} {left : List String} :
    Follows setup last (.initializing (library :: left)) (some (.initialized library .returned))
      last (.initializing left)
  | refuse {last : Position} {library : String} {left : List String} {exit : LibraryExit}
    {error : LibraryError} : exit.error? library = some error →
      Follows setup last (.initializing (library :: left)) (some (.initialized library exit))
        last (.finalizing setup.libraries (.error (.library error)))
  | begin {last : Position} :
    Follows setup last (.initializing []) (some .begun) last .body
  | stop {last : Position} {outcome : Except Fault Unit} :
    Follows setup last .body (some (.stopped outcome)) last (.finalizing setup.libraries outcome)
  | finalize {last : Position} {library : String} {left : List String} {exit : LibraryExit}
    {outcome : Except Fault Unit} :
      Follows setup last (.finalizing (library :: left) outcome) (some (.finalized library exit))
        last (.finalizing left outcome)
  | close {last : Position} {outcome : Except Fault Unit} :
    Follows setup last (.finalizing [] outcome) none last (.classifying outcome)
  | classify {last : Position} {elapsed : ℕ} {outcome : Except Fault Unit} {result : RunResult} :
    RunResult.ofOutcome setup.translators setup.info last elapsed outcome = .ok result →
      Follows setup last (.classifying outcome) (some (.classified outcome)) last
        (.concluded result)
  | misjudge {last : Position} {elapsed : ℕ} {outcome : Except Fault Unit} {payload : Payload} :
    RunResult.ofOutcome setup.translators setup.info last elapsed outcome = .error payload →
      Follows setup last (.classifying outcome) (some (.classified outcome)) last
        (.recovering payload.message)
  | recover {last : Position} {elapsed : ℕ} {message : String} :
    Follows setup last (.recovering message) none last
      (.concluded (.ofPanic message last elapsed))
  | finish {last : Position} {result : RunResult} :
    Follows setup last (.concluded result) (some (.told (.ended result))) last .done

@[simp] theorem Point.chapter_wake (q : Point κ) : q.wake.chapter = q.chapter := by cases q <;> rfl

namespace System

/-- A call of the body reports a position, or stops the body, or leads on in it. -/
theorem Called.follows {c : Call κ} {state : κ} (h : s.Called setup c s₁ q) :
    Chapter.Follows setup last .body ((Point.body state).milestone? (.call run c))
      ((Label.call run c).report?.getD last) q.chapter := by
  cases h with
  | finish | panic => exact .stop
  | report | pause => exact .report
  | _ => exact .stay

theorem follows_told (notice : Notice) (after : AfterNotice κ) :
    Chapter.Follows setup last (after.chapter notice)
      ((Point.telling notice [] after).milestone? l) last (after.point setup).chapter := by
  cases after with
  | libraries => exact .start
  | leaveRead exit => cases exit <;> exact .stay
  | _ => exact .stay

/-- A panic of an observer leads on in the chapter, unless the observer is told of the start. -/
theorem follows_torn {payload : Payload} {notice : Notice} {after : AfterNotice κ}
    (hafter : after ≠ .libraries) (h : after.torn? payload.message = some q) :
    Chapter.Follows setup last (after.chapter notice) none last q.chapter := by
  cases after with
  | libraries => exact absurd rfl hafter
  | leaveRead exit =>
    cases exit with
    | answer state =>
      obtain rfl := Option.some.inj h
      exact .stay
    | unwind message => cases h
  | _ =>
    obtain rfl := Option.some.inj h
    exact .stay

/-- **A turn leads to the chapter that follows, unless an observer panics while it is told of the
start.** -/
theorem Takes.follows (h : s.Takes setup run args l q s₁ q') (hq : s.point? run = some q)
    (hlast : q.phase.isOver = false → s.control.position = last) :
    (Moment.mk s l).startPanics run = true ∨
      Chapter.Follows setup last q.chapter (q.milestone? l) (l.report?.getD last) q'.chapter := by
  cases h with
  | told => exact .inr (follows_told _ _)
  | enter => exact .inr .begin
  | @park _ w => cases w <;> exact .inr .stay
  | take hasks => obtain rfl | rfl := hasks <;> exact .inr .stay
  | unwound => exact .inr .stop
  | finalized => exact .inr .close
  | classified hresult => exact .inr (.classify (hlast rfl ▸ hresult))
  | misjudged hpayload => exact .inr (.misjudge (hlast rfl ▸ hpayload))
  | recovered => exact .inr (by rw [hlast rfl]; exact .recover)
  | retired => exact .inr .finish
  | called hcalled => exact .inr hcalled.follows
  | returned hskips =>
    cases hskips with
    | telling | ending => exact .inr .stay
    | initializing => exact .inr .prepare
    | finalizing => exact .inr .finalize
  | refused | tornStart => exact .inr (.refuse rfl)
  | lapsed | tornStop => exact .inr .finalize
  | @tornNotice _ _ _ _ after _ htorn =>
    by_cases hafter : after = .libraries
    · subst hafter
      exact .inl (by simp [Moment.startPanics, hq])
    · exact .inr (follows_torn hafter htorn)
  | collided hat =>
    subst hat
    exact .inr .stay
  | _ => exact .inr .stay

/-- **A step leads to the chapter that follows, unless an observer panics while it is told of the
start.** -/
theorem follows_of_step (h : s.step setup l = some s') (hq : s.point? run = some q)
    (hlast : q.phase.isOver = false → s.control.position = last) :
    (Moment.mk s l).startPanics run = true ∨ ∃ q', s'.point? run = some q' ∧
      Chapter.Follows setup last q.chapter ((Moment.mk s l).milestone? run)
        (((Moment.mk s l).report? run).getD last) q'.chapter := by
  by_cases hl : l.worker? = some run
  · simp only [Moment.milestone?, Moment.report?, if_pos hl, hq, Option.bind_some]
    obtain ⟨args, s₁, q', -, hq', htakes⟩ := takes_of_point hl hq h
    exact (htakes.follows hq hlast).imp_right fun hfollows => ⟨q', hq', hfollows⟩
  · simp only [Moment.milestone?, Moment.report?, if_neg hl]
    right
    obtain he | ⟨-, hnone, -⟩ | ⟨he, -⟩ := (stepped_of_step h).point?_cases hl
    · exact ⟨q, he.trans hq, .stay⟩
    · cases hnone.symm.trans hq
    · refine ⟨q.wake, by rw [he, hq]; rfl, ?_⟩
      rw [Point.chapter_wake]
      exact .stay

end System

end RunControl
