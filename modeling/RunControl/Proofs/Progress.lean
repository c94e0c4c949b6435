import Mathlib.Data.Prod.Lex
import RunControl.Proofs.Within

/-!
# Every turn brings a worker closer to its end

Between two calls of its body a worker only moves forward: through the notifications and the
callbacks of a call, back to the body, and from there to the end of the run. A panic skips places,
and never leads back.

* `Point.Next`, **`System.next_of_step`**: from which place to which a turn leads that is not a call
  of the body; one kind of turn ends the process instead;
* `System.Comes`, **`System.comes_of_step`**: how a worker comes to where it is after a step;
* `Point.rank`, **`Point.Next.rank_lt`**: how far a worker still has to go, and that a turn leaves
  it less, unless the worker falls asleep.
-/

namespace RunControl

variable {κ : Type}

/-! ## From place to place -/

/-- Where a turn of the worker of a run leads that is not a call of its body. -/
inductive Point.Next (setup : Setup κ) (run : RunId) : Label κ → Point κ → Point κ → Prop
  | skip {l : Label κ} {q q' : Point κ} : q.Skips q' → Next setup run l q q'
  -- what a worker does on its own
  | begin {elapsed : ℕ} :
    Next setup run (.advance run elapsed) .queued (.announcing .started .libraries)
  | tell {elapsed : ℕ} {notice : Notice} {after : AfterNotice κ} {queue : List ObserverId} :
    Next setup run (.advance run elapsed) (.announcing notice after) (.telling notice queue after)
  | told {elapsed : ℕ} {notice : Notice} {after : AfterNotice κ} :
    Next setup run (.advance run elapsed) (.telling notice [] after) (after.point setup)
  | enter {elapsed : ℕ} {state : κ} :
    Next setup run (.advance run elapsed) (.initializing []) (.body state)
  | sleep {elapsed : ℕ} {w : Wait κ} : Next setup run (.advance run elapsed) w.test w.sleep
  | release {elapsed : ℕ} {hold : Hold κ} {answer : Except Fault Unit} :
    Next setup run (.advance run elapsed) (.holding hold)
      (.announcing .resumed (.proceed (hold.next answer)))
  | request {elapsed : ℕ} {ask : Ask κ} {provider : ProviderId} :
    Next setup run (.advance run elapsed) (.requesting ask) (.asking ask provider)
  | wait {elapsed : ℕ} {ask : Ask κ} :
    Next setup run (.advance run elapsed) (.checking ask) (.announcing .paused (.awaitAnswer ask))
  | takeAtOnce {elapsed : ℕ} {ask : Ask κ} {answer : Except Fault Value} :
    Next setup run (.advance run elapsed) (.checking ask)
      (.closingRead (.answer (ask.next answer)))
  | take {elapsed : ℕ} {ask : Ask κ} {answer : Except Fault Value} :
    Next setup run (.advance run elapsed) (.awaiting ask)
      (.closingRead (.answer (ask.next answer)))
  | close {elapsed : ℕ} {exit : ReadExit κ} :
    Next setup run (.advance run elapsed) (.closingRead exit)
      (.announcing .resumed (.leaveRead exit))
  | unwound {elapsed : ℕ} {message : String} :
    Next setup run (.advance run elapsed) (.unwinding message)
      (.finalizing setup.libraries (.error (.panic message)))
  | finalized {elapsed : ℕ} {outcome : Except Fault Unit} :
    Next setup run (.advance run elapsed) (.finalizing [] outcome) (.classifying outcome)
  | classified {elapsed : ℕ} {outcome : Except Fault Unit} {result : RunResult} :
    Next setup run (.advance run elapsed) (.classifying outcome) (.draining result)
  | misjudged {elapsed : ℕ} {outcome : Except Fault Unit} {message : String} :
    Next setup run (.advance run elapsed) (.classifying outcome) (.recovering message)
  | recovered {elapsed : ℕ} {message : String} {result : RunResult} :
    Next setup run (.advance run elapsed) (.recovering message) (.draining result)
  | drained {elapsed : ℕ} {result : RunResult} {watchers : List ObserverId} :
    Next setup run (.advance run elapsed) (.draining result) (.finishing result watchers)
  | finished {elapsed : ℕ} {result : RunResult} {watchers : List ObserverId} :
    Next setup run (.advance run elapsed) (.finishing result watchers) (.ending result watchers)
  | retired {elapsed : ℕ} {result : RunResult} :
    Next setup run (.advance run elapsed) (.ending result []) .done
  -- how a callback ends
  | provided {l : Label κ} {ask : Ask κ} {provider : ProviderId} :
    Next setup run l (.asking ask provider) (.checking ask)
  | written {l : Label κ} {value : Value} {sink : SinkId} {next : Except Fault Unit → κ}
    {answer : Except Fault Unit} :
    Next setup run l (.writing value sink next) (.body (next answer))
  | cleared {l : Label κ} {sink : SinkId} {next : Except Fault Unit → κ}
    {answer : Except Fault Unit} : Next setup run l (.clearing sink next) (.body (next answer))
  | refused {l : Label κ} {left : List String} {error : LibraryError} :
    Next setup run l (.initializing left) (.finalizing setup.libraries (.error (.library error)))
  -- where a panic leads
  | tornNotice {payload : Payload} {notice : Notice} {queue : List ObserverId}
    {after : AfterNotice κ} {q : Point κ} : after.torn? payload.message = some q →
      Next setup run (.panicked run payload) (.telling notice queue after) q
  | tornRequest {payload : Payload} {ask : Ask κ} {provider : ProviderId} :
    Next setup run (.panicked run payload) (.asking ask provider)
      (.closingRead (.unwind payload.message))
  | tornWrite {payload : Payload} {value : Value} {sink : SinkId} {next : Except Fault Unit → κ} :
    Next setup run (.panicked run payload) (.writing value sink next) (.unwinding payload.message)
  | tornClear {payload : Payload} {sink : SinkId} {next : Except Fault Unit → κ} :
    Next setup run (.panicked run payload) (.clearing sink next) (.unwinding payload.message)
  | caught {state : κ} {message : String} :
    Next setup run (.caught run state) (.unwinding message) (.body state)

/-- A panic meets another one, which is leaving a read. -/
def Moment.collides (run : RunId) (x : Moment κ) : Bool :=
  match x.label, x.state.point? run with
  | .panicked r _, some (.telling _ (_ :: _) (.leaveRead (.unwind _))) => r = run
  | _, _ => false

namespace System

variable {setup : Setup κ} {s s' s₁ : System κ} {run : RunId} {l : Label κ} {q q' : Point κ}
  {args : List String}

/-- A turn that is not a call of the body leads from place to place, or two panics meet. -/
theorem Takes.next (h : s.Takes setup run args l q s₁ q') (hc : ∀ c, l ≠ .call run c)
    (hq : s.point? run = some q) : (s₁.aborted = s.aborted ∧ Point.Next setup run l q q') ∨
      (Moment.mk s l).collides run = true ∧ q' = q ∧ s₁ = { s with aborted := true } := by
  -- every way of a turn is one of the ways between places, the collision apart
  cases h with
  | begin => exact .inl ⟨rfl, .begin⟩
  | tell => exact .inl ⟨rfl, .tell⟩
  | told => exact .inl ⟨rfl, .told⟩
  | enter => exact .inl ⟨rfl, .enter⟩
  | park => exact .inl ⟨rfl, .sleep⟩
  | release => exact .inl ⟨rfl, .release⟩
  | request => exact .inl ⟨rfl, .request⟩
  | wait => exact .inl ⟨rfl, .wait⟩
  | take hasks =>
    obtain rfl | rfl := hasks
    · exact .inl ⟨rfl, .takeAtOnce⟩
    · exact .inl ⟨rfl, .take⟩
  | close => exact .inl ⟨rfl, .close⟩
  | unwound => exact .inl ⟨rfl, .unwound⟩
  | finalized => exact .inl ⟨rfl, .finalized⟩
  | classified => exact .inl ⟨rfl, .classified⟩
  | misjudged => exact .inl ⟨rfl, .misjudged⟩
  | recovered => exact .inl ⟨rfl, .recovered⟩
  | drained => exact .inl ⟨rfl, .drained⟩
  | finished => exact .inl ⟨rfl, .finished⟩
  | retired => exact .inl ⟨rfl, .retired⟩
  | called => exact absurd rfl (hc _)
  | returned hskips => exact .inl ⟨rfl, .skip hskips⟩
  | provided => exact .inl ⟨rfl, .provided⟩
  | written | unwritten => exact .inl ⟨rfl, .written⟩
  | cleared | uncleared => exact .inl ⟨rfl, .cleared⟩
  | refused | tornStart => exact .inl ⟨rfl, .refused⟩
  | lapsed | tornStop => exact .inl ⟨rfl, .skip .finalizing⟩
  | tornNotice htorn => exact .inl ⟨rfl, .tornNotice htorn⟩
  | collided hat =>
    subst hat
    exact .inr ⟨by simp [Moment.collides, hq], rfl, rfl⟩
  | tornRequest => exact .inl ⟨rfl, .tornRequest⟩
  | tornWrite => exact .inl ⟨rfl, .tornWrite⟩
  | tornClear => exact .inl ⟨rfl, .tornClear⟩
  | tornEnd => exact .inl ⟨rfl, .skip .ending⟩
  | caught => exact .inl ⟨rfl, .caught⟩

/-- **A turn that is not a call of the body leads from place to place, or two panics meet and the
process ends.** -/
theorem next_of_step (hl : l.worker? = some run) (hc : ∀ c, l ≠ .call run c)
    (h : s.step setup l = some s') : ∃ q, s.point? run = some q ∧
      ((∃ q', s'.point? run = some q' ∧ s'.aborted = false ∧ Point.Next setup run l q q') ∨
        (Moment.mk s l).collides run = true ∧ s' = { s with aborted := true }) := by
  have ha := aborted_of_step h
  obtain ⟨task, s₁, q', hfree, he, htakes⟩ := takes_of_step hl h
  have ht := (freeTask?_eq_some_iff.1 hfree).2
  have hq : s.point? run = some task.point := point?_eq_some_iff.2 ⟨task, ht, rfl⟩
  refine ⟨task.point, hq, ?_⟩
  obtain ⟨hgoes, hnext⟩ | ⟨hmeet, rfl, rfl⟩ := htakes.next hc hq
  · have hq' : s'.point? run = some q' := he ▸ point?_goto ((htakes.point? run).trans hq)
    exact .inl ⟨q', hq', he ▸ hgoes.trans ha, hnext⟩
  · exact .inr ⟨hmeet, he.trans (goto_point (s := { s with aborted := true }) ht)⟩

/-- How the worker of a run comes to the place where it is after a step. It stays there if the step
is somebody else's, or ends the process. -/
inductive Comes (setup : Setup κ) (run : RunId) (l : Label κ) (s s' : System κ) : Point κ → Prop
  | stays {q : Point κ} : (∀ c, l ≠ .call run c) → s.point? run = some q → Comes setup run l s s' q
  | wakes {q : Point κ} : (∀ c, l ≠ .call run c) → s.point? run = some q →
    Comes setup run l s s' q.wake
  | joins : s.point? run = none → Comes setup run l s s' .queued
  | calls {c : Call κ} {state : κ} {q : Point κ} : l = .call run c →
    s.point? run = some (.body state) → (s.call setup run c).point? run = some q →
      Comes setup run l s s' q
  | turns {q q' : Point κ} : l.worker? = some run → (∀ c, l ≠ .call run c) →
    s.point? run = some q → s'.aborted = false → Point.Next setup run l q q' →
      Comes setup run l s s' q'

/-- **How a worker comes to where it is after a step.** -/
theorem comes_of_step (h : s.step setup l = some s') (hq : s'.point? run = some q) :
    Comes setup run l s s' q := by
  by_cases hcall : ∃ c, l = .call run c
  · obtain ⟨c, rfl⟩ := hcall
    obtain ⟨state, hbody, rfl⟩ := step_call h
    exact .calls rfl hbody hq
  have hc : ∀ c, l ≠ .call run c := fun c he => hcall ⟨c, he⟩
  by_cases hl : l.worker? = some run
  · obtain ⟨q₀, hq₀, ⟨q₁, hq₁, ha, hnext⟩ | ⟨-, rfl⟩⟩ := next_of_step hl hc h
    · obtain rfl := Option.some.inj (hq₁.symm.trans hq)
      exact .turns hl hc hq₀ ha hnext
    · exact .stays hc hq
  · obtain he | ⟨-, hnone, hqueued⟩ | ⟨he, -⟩ := (stepped_of_step h).point?_cases hl
    · exact .stays hc (he ▸ hq)
    · obtain rfl := Option.some.inj (hqueued.symm.trans hq)
      exact .joins hnone
    · rw [he] at hq
      obtain ⟨q₀, hq₀, rfl⟩ := Option.map_eq_some_iff.1 hq
      exact .wakes hc hq₀

end System

/-! ## The rank of a place -/

/-- The place of a worker within a notification, from what follows it. -/
def AfterNotice.stage : AfterNotice κ → ℕ
  | proceed _ | leaveRead _ => 9
  | libraries => 10
  | hold _ => 12
  | awaitAnswer _ => 13
  | highlight _ => 14

namespace Point

/-- The place of a worker, counted from the end of the run. -/
def stage : Point κ → ℕ
  | done => 0
  | ending _ _ => 1
  | finishing _ _ => 2
  | draining _ => 3
  | recovering _ => 4
  | classifying _ => 5
  | finalizing _ _ => 6
  | body _ => 7
  | unwinding _ => 8
  | initializing _ | writing _ _ _ | clearing _ _ => 9
  | closingRead _ | holding _ | held _ => 11
  | awaiting _ | awaitingAsleep _ | queued => 12
  | checking _ => 15
  | asking _ _ => 16
  | requesting _ => 17
  | telling _ _ after => after.stage
  | announcing _ after => after.stage + 1

/-- How many callbacks are left at the place. -/
def left : Point κ → ℕ
  | telling _ queue _ | ending _ queue => queue.length
  | initializing left | finalizing left _ => left.length
  | _ => 0

/-- How far a worker still has to go. -/
def rank (q : Point κ) : ℕ ×ₗ ℕ := toLex (q.stage, q.left)

variable {setup : Setup κ} {run : RunId} {l : Label κ} {q q' : Point κ}

theorem rank_lt_of_stage (h : q'.stage < q.stage) : q'.rank < q.rank :=
  Prod.Lex.toLex_lt_toLex.2 (.inl h)

@[simp] theorem rank_sleep (w : Wait κ) : w.sleep.rank = w.test.rank := by cases w <;> rfl

theorem Skips.rank_lt (h : q.Skips q') : q'.rank < q.rank := by
  cases h <;> exact Prod.Lex.toLex_lt_toLex.2 (.inr ⟨rfl, Nat.lt_succ_self _⟩)

theorem stage_afterNotice (setup : Setup κ) (after : AfterNotice κ) :
    (after.point setup).stage < after.stage := by
  cases after with
  | leaveRead exit => cases exit <;> simp [AfterNotice.point, stage, AfterNotice.stage]
  | _ => simp [AfterNotice.point, stage, AfterNotice.stage]

theorem stage_torn {message : String} {after : AfterNotice κ}
    (h : after.torn? message = some q) : q.stage < after.stage := by
  cases after with
  | leaveRead exit =>
    cases exit with
    | answer state =>
      obtain rfl := Option.some.inj h
      simp [stage, AfterNotice.stage]
    | unwind message => cases h
  | _ =>
    obtain rfl := Option.some.inj h
    simp [stage, AfterNotice.stage]

/-- **A turn that is not a call of the body brings the worker closer to its end, or it falls
asleep.** -/
theorem Next.rank_lt (h : Next setup run l q q') :
    q'.rank < q.rank ∨ ∃ w, q = Wait.test w ∧ q' = Wait.sleep w := by
  cases h with
  | skip hskips => exact .inl hskips.rank_lt
  | sleep => exact .inr ⟨_, rfl, rfl⟩
  | tell => exact .inl (rank_lt_of_stage (Nat.lt_succ_self _))
  | told => exact .inl (rank_lt_of_stage (stage_afterNotice setup _))
  | tornNotice htorn => exact .inl (rank_lt_of_stage (stage_torn htorn))
  | _ => exact .inl (rank_lt_of_stage (by simp [stage, AfterNotice.stage]))

end Point

end RunControl
