import RunControl.Proofs.Interchange
import RunControl.Proofs.Itinerary

/-!
# Stepping through a program

A session is a run of a body that nobody interferes with but in its pauses. Its observers see what
the reference stepper says, and after the last instruction it comes to rest: in the pause at the
next stop, or at its end.

* `highlighted`, `System.isBlocked`, `Session`: what is seen of a session;
* `Session.highlighted_eq`, `Session.highlighted_prefix`: the lines that a session has highlighted;
* **`Session.blocked`**, **`Session.ended`**: where a session rests;
* `Tended`, **`Schedule.Conducts.exists_rest`**: a session to which no more instructions come, comes
  to rest;
* **`greedy`**: the sessions of a program are those of the stepper.
-/

namespace RunControl

variable {κ : Type}

/-- The line of a highlight. -/
def Notice.line? : Notice → Option UInt32
  | lineHighlighted line => some line
  | _ => none

/-- The lines that a run has highlighted, in order. -/
def highlighted (run : RunId) (p : List (Moment κ)) : List UInt32 :=
  (announced run p).filterMap Notice.line?

/-- The worker waits in a pause that has not been resumed. -/
def System.isBlocked (run : RunId) (s : System κ) : Bool :=
  match s.point? run with
  | some (.holding hold) | some (.held hold) => s.control.isHeld hold.generation
  | _ => false

theorem Moment.tearsNotice_of_other {run : RunId} {x : Moment κ}
    (h : x.label.worker? ≠ some run) : x.tearsNotice run = false := by
  unfold tearsNotice
  split
  · rename_i r _ _ _ _ hl _
    have hr : r ≠ run := fun he => h (by rw [hl, he]; rfl)
    simp [hr]
  · rfl

theorem Moment.tearsNotice_of_smooth {run : RunId} {x : Moment κ} (h : x.fails run = false) :
    x.tearsNotice run = false := by
  unfold tearsNotice
  split
  · rename_i r _ _ _ _ hl _
    simpa [fails, hl] using h
  · rfl

theorem filterMap_line?_word (run : RunId) (p : List (Moment κ)) :
    (word run p).filterMap Notice.line? = (pauses run p).map Position.line := by
  have hblocks (bs : List Occasion) :
      (bs.flatMap Occasion.word).filterMap Notice.line? =
        (bs.filterMap Occasion.position?).map Position.line := by
    induction bs with
    | nil => rfl
    | cons b bs ih =>
      rw [List.flatMap_cons, List.filterMap_append, ih]
      cases b with
      | pause position => rfl
      | read waited => cases waited <;> rfl
  exact hblocks (occasions run p)

/-- A run up to some step, of a body with which nobody interferes but in its pauses, with the steps
before the start and those after it. -/
structure Session (setup : Setup κ) (next : κ → Call κ) where
  directory : String
  past : List (Moment κ)
  idle : System κ
  thread : Thread
  args : List String
  mode : DebugMode
  begun : System κ
  moments : List (Moment κ)
  state : System κ
  before : Trail setup (System.initial setup directory) past idle
  starts : (Moment.mk idle (.act thread (.start args mode))).starts = true
  begins : idle.step setup (.act thread (.start args mode)) = some begun
  trail : Trail setup begun moments state
  steady : ∀ x ∈ moments, Moment.Steady next idle.tasks.length x

namespace Session

variable {setup : Setup κ} {next : κ → Call κ} (e : Session setup next)

/-- The number of the run. -/
def run : RunId := e.idle.tasks.length

/-- The mode of the start and the breakpoints at the time. -/
def stance : Stance := ⟨e.mode, e.idle.control.breakpoints.activeLines⟩

/-- All steps, the latest first. -/
def all : List (Moment κ) :=
  e.moments ++ ⟨e.idle, .act e.thread (.start e.args e.mode)⟩ :: e.past

/-- Where the reference stepper stops on its way through the positions. -/
def stops (positions : List Position) : List Position :=
  RunControl.stops setup.info.lineCount e.stance (instructions e.moments) positions

/-- From every beginning the body reports the positions. -/
def Reports (positions : List Position) : Prop :=
  ∀ n, RunControl.Reports next (setup.entry n e.args) positions

theorem trail_all : Trail setup (System.initial setup e.directory) e.all e.state :=
  (e.before.cons e.begins).append e.trail

theorem reachable_begun : Reachable setup e.begun := ⟨_, _, e.before.cons e.begins⟩

theorem onCourse_begun : OnCourse setup.info.lineCount e.stance e.run ([], none) [] [] e.begun :=
  .start e.before.reachable e.starts e.begins

theorem onCourse : OnCourse setup.info.lineCount e.stance e.run (steering e.moments)
    (visited e.run e.moments) (pauses e.run e.moments) e.state :=
  e.trail.onCourse e.reachable_begun e.onCourse_begun e.steady

theorem travels {positions : List Position} (h : e.Reports positions) :
    Travels setup next e.args positions e.run e.moments e.state := by
  refine e.trail.travels e.reachable_begun e.onCourse_begun ?_ h e.steady
  obtain ⟨c, hc⟩ := Option.isSome_iff_exists.1 e.starts
  have hbegun : e.begun =
      ({ e.idle with control := c } : System κ).promise e.thread (.submit e.args) := by
    rw [(System.act_of_step e.begins).2]
    simp [System.act, hc]
  have hnone : e.begun.point? e.run = none := by
    rw [hbegun, System.point?]
    exact congrArg (Option.map _) (List.getElem?_eq_none le_rfl)
  refine ⟨hbegun ▸ .start e.before.reachable.orderly hc, fun _ => rfl, fun q hq => ?_,
    by rintro _ ⟨⟩⟩
  cases hnone.symm.trans hq

theorem unseen : ∀ x ∈ (⟨e.idle, .act e.thread (.start e.args e.mode)⟩ :: e.past : List (Moment κ)),
    x.label.worker? ≠ some e.run := by
  have hnone : e.idle.point? e.run = none := by
    rw [System.point?, run, List.getElem?_eq_none le_rfl]
    rfl
  intro x hx
  obtain rfl | hx := List.mem_cons.1 hx
  · simp [Label.worker?]
  · exact e.before.worker?_of_unseen hnone x hx

theorem pauses_all : pauses e.run e.all = pauses e.run e.moments := by
  have hpast : (⟨e.idle, .act e.thread (.start e.args e.mode)⟩ :: e.past).foldr
      (Moment.record e.run) [] = [] :=
    List.reverse_eq_nil_iff.1 (occasions_of_unseen e.unseen)
  rw [pauses, occasions, all, List.foldr_append, hpast, pauses, occasions]

theorem results_all : results e.run e.all = results e.run e.moments := by
  have hpast : results e.run (⟨e.idle, .act e.thread (.start e.args e.mode)⟩ :: e.past) = [] :=
    List.filterMap_eq_nil_iff.2 fun x hx => Moment.result?_of_other (e.unseen x hx)
  rw [results, all, List.filterMap_append, ← results, ← results, hpast, List.append_nil]

theorem calm : e.all.any (Moment.tearsNotice e.run) = false := by
  rw [List.any_eq_false]
  intro x hx
  rw [Bool.not_eq_true]
  obtain hx | hx := List.mem_append.1 hx
  · exact Moment.tearsNotice_of_smooth (e.steady x hx).smooth
  · exact Moment.tearsNotice_of_other (e.unseen x hx)

/-- The lines of the pauses have been highlighted, up to one that is about to be. -/
theorem highlighted_eq {q : Point κ} (hq : e.state.point? e.run = some q) :
    highlighted e.run e.all ++ q.rest.filterMap Notice.line? =
      (pauses e.run e.moments).map Position.line := by
  have hcoda : (q.coda (results e.run e.all)).filterMap Notice.line? = [] := by
    have hended (results : List RunResult) :
        (results.map Notice.ended).filterMap Notice.line? = [] :=
      List.filterMap_eq_nil_iff.2 fun notice hmem => by
        obtain ⟨result, -, rfl⟩ := List.mem_map.1 hmem
        rfl
    cases q with
    | finishing result watchers => rfl
    | _ => exact hended _
  have hword := congrArg (List.filterMap Notice.line?) (e.trail_all.announced_eq e.calm hq)
  rw [List.filterMap_append, List.filterMap_append, hcoda, List.append_nil, filterMap_line?_word,
    e.pauses_all] at hword
  exact hword

/-- An observer who attends has seen what has been highlighted, where nobody is about to be told. -/
theorem heard_eq {q : Point κ} {o : ObserverId} (hq : e.state.point? e.run = some q)
    (huntold : (q.untold o).filterMap Notice.line? = []) (ha : attends e.run o e.all = true) :
    (heard e.run o e.all).filterMap Notice.line? = highlighted e.run e.all := by
  rw [highlighted, ← e.trail_all.heard_eq e.calm ha hq, List.filterMap_append, huntold,
    List.append_nil]

variable {positions : List Position}

theorem exists_stops_eq (h : e.Reports positions) :
    ∃ rest, e.stops positions = pauses e.run e.moments ++ rest := by
  cases hq : e.state.point? e.run with
  | none =>
    have hahead := e.onCourse.ahead [] positions
    rw [(e.travels h).unseen hq, List.append_nil, List.nil_append] at hahead
    exact ⟨_, hahead⟩
  | some q =>
    obtain ⟨left, rfl, -⟩ := (e.travels h).due q hq
    have hahead := e.onCourse.ahead [] left
    rw [List.append_nil] at hahead
    exact ⟨_, hahead⟩

/-- **A run highlights the lines of the stops, in order.** -/
theorem highlighted_prefix (h : e.Reports positions) :
    highlighted e.run e.all <+: (e.stops positions).map Position.line := by
  obtain ⟨rest, hrest⟩ := e.exists_stops_eq h
  rw [hrest, List.map_append]
  cases hq : e.state.point? e.run with
  | none =>
    rw [highlighted, (e.trail_all.heard_of_unseen (o := "") hq).2]
    exact List.nil_prefix
  | some q =>
    rw [← e.highlighted_eq hq, List.append_assoc]
    exact List.prefix_append _ _

/-- What the observers have seen: exactly the lines of the stops. -/
structure Shown (e : Session setup next) (positions : List Position) : Prop where
  highlighted : highlighted e.run e.all = (e.stops positions).map Position.line
  heard : ∀ o, attends e.run o e.all = true →
    (heard e.run o e.all).filterMap Notice.line? = (e.stops positions).map Position.line

theorem shown_of_rest {q : Point κ} (hq : e.state.point? e.run = some q)
    (hstops : e.stops positions = pauses e.run e.moments)
    (hrest : q.rest.filterMap Notice.line? = [])
    (huntold : ∀ o, (q.untold o).filterMap Notice.line? = []) : e.Shown positions := by
  have hhighlighted := e.highlighted_eq hq
  rw [hrest, List.append_nil, ← hstops] at hhighlighted
  exact ⟨hhighlighted, fun o ha => (e.heard_eq hq (huntold o) ha).trans hhighlighted⟩

/-- **After `k` instructions a run that is blocked is at the stop number `k + 1`.** -/
theorem blocked (h : e.Reports positions) (hblocked : e.state.isBlocked e.run = true) :
    e.Shown positions ∧ (e.stops positions).length = (instructions e.moments).length + 1 ∧
      (e.stops positions).getLast? = some e.state.control.position := by
  obtain ⟨hold, hq, hheld⟩ : ∃ hold, (e.state.point? e.run = some (.holding hold) ∨
      e.state.point? e.run = some (.held hold)) ∧
      e.state.control.isHeld hold.generation = true := by
    unfold System.isBlocked at hblocked
    split at hblocked
    · rename_i hold hq
      exact ⟨hold, .inl hq, hblocked⟩
    · rename_i hold hq
      exact ⟨hold, .inr hq, hblocked⟩
    · cases hblocked
  have hpaused : e.state.isPaused e.run = true := by
    unfold System.isPaused System.phase?
    rcases hq with hq | hq <;> rw [hq] <;> exact hheld
  have hcourse := e.onCourse
  have hstops : e.stops positions = pauses e.run e.moments := by
    obtain ⟨q, hq⟩ : ∃ q, e.state.point? e.run = some q := by
      rcases hq with hq | hq <;> exact ⟨_, hq⟩
    obtain ⟨left, rfl, -⟩ := (e.travels h).due q hq
    have hahead := hcourse.ahead [] left
    rw [List.append_nil, hpaused, if_pos rfl, stopsAfter, List.append_nil] at hahead
    exact hahead
  refine ⟨?_, ?_, ?_⟩
  · rcases hq with hq | hq <;> exact e.shown_of_rest hq hstops rfl fun _ => rfl
  · rw [hstops, hcourse.length, hpaused]
    rfl
  · rw [hstops, hcourse.here hpaused]

/-- **A run that is over has stopped once for every instruction, and ended normally at the last
position.** -/
theorem ended (h : e.Reports positions)
    (hover : (e.state.phase? e.run).any Phase.isOver = true) :
    e.Shown positions ∧ (e.stops positions).length = (instructions e.moments).length ∧
      e.state.control.position = positions.getLastD .unknown ∧
      ∃ result, results e.run e.all = [result] ∧ result.termination = .normal := by
  obtain ⟨f, hphase, hf⟩ := (Option.any_eq_true _ _).1 hover
  obtain ⟨q, hq, rfl⟩ := Option.map_eq_some_iff.1 (Option.mem_def.1 hphase)
  obtain ⟨left, hpositions, hdue⟩ := (e.travels h).due q hq
  have hpaused : e.state.isPaused e.run = false := by
    rw [System.isPaused_eq, Option.mem_def.1 hphase]
    exact Phase.isHeld_of_isOver hf
  obtain ⟨hleft, hrest, huntold⟩ : left = [] ∧ q.rest.filterMap Notice.line? = [] ∧
      ∀ o, (q.untold o).filterMap Notice.line? = [] := by
    obtain ⟨result, queue, rfl⟩ | rfl := Point.over_cases hf
    · refine ⟨hdue.2, rfl, fun o => ?_⟩
      change (if o ∈ queue then [Notice.ended result] else []).filterMap Notice.line? = []
      split_ifs <;> rfl
    · exact ⟨hdue, rfl, fun _ => rfl⟩
  have hvisited : visited e.run e.moments = positions := by
    rw [← hpositions, hleft, List.append_nil]
  have hcourse := e.onCourse
  have hstops : e.stops positions = pauses e.run e.moments := by
    have hahead := hcourse.ahead [] []
    simp only [hpaused, hvisited, List.append_nil, stops_nil, Bool.false_eq_true,
      if_false] at hahead
    exact hahead
  refine ⟨e.shown_of_rest hq hstops hrest huntold, ?_, ?_, ?_⟩
  · rw [hstops, hcourse.length, hpaused]
    rfl
  · rw [hcourse.position, hvisited]
  · obtain ⟨result, hresult⟩ : ∃ result, results e.run e.all = [result] := by
      rw [← List.length_eq_one_iff, e.trail_all.results_cases.1, hover]
      rfl
    refine ⟨result, hresult, (e.travels h).ends result ?_⟩
    rw [← e.results_all, hresult]
    exact List.mem_singleton_self result

/-- A session rests after `k` instructions: in the pause at the stop number `k + 1`, or at its
end. -/
structure Rests (e : Session setup next) (positions : List Position) : Prop where
  shown : e.Shown positions
  place : e.state.isBlocked e.run = true ∧
      (e.stops positions).length = (instructions e.moments).length + 1 ∧
      (e.stops positions).getLast? = some e.state.control.position ∨
    (e.state.phase? e.run).any Phase.isOver = true ∧
      (e.stops positions).length = (instructions e.moments).length ∧
      e.state.control.position = positions.getLastD .unknown ∧
      ∃ result, results e.run e.all = [result] ∧ result.termination = .normal

theorem rests (h : e.Reports positions) (hrest : e.state.isBlocked e.run = true ∨
    (e.state.phase? e.run).any Phase.isOver = true) : e.Rests positions := by
  obtain hblocked | hover := hrest
  · exact ⟨(e.blocked h hblocked).1, .inl ⟨hblocked, (e.blocked h hblocked).2⟩⟩
  · exact ⟨(e.ended h hover).1, .inr ⟨hover, (e.ended h hover).2⟩⟩

end Session

/-! ## Coming to rest -/

section Persistence

variable {setup : Setup κ} {s s' : System κ} {l : Label κ} {run : RunId} {next : κ → Call κ}

theorem System.isBlocked_iff : s.isBlocked run = true ↔
    ∃ hold, s.control.blocks (.resumption hold) = true ∧
      (s.point? run = some (.holding hold) ∨ s.point? run = some (.held hold)) := by
  constructor
  · intro h
    unfold isBlocked at h
    split at h
    · rename_i hold hq
      exact ⟨hold, h, .inl hq⟩
    · rename_i hold hq
      exact ⟨hold, h, .inr hq⟩
    · cases h
  · rintro ⟨hold, h, hq | hq⟩ <;> rw [isBlocked, hq] <;> exact h

theorem System.isBlocked_of_step (hx : Moment.Steady next run ⟨s, l⟩)
    (hsteers : (Moment.mk s l).steers = false) (h : s.isBlocked run = true)
    (hs : s.step setup l = some s') : s'.isBlocked run = true := by
  obtain ⟨hold, hblocks, hq⟩ := isBlocked_iff.1 h
  have hresumes : (Moment.mk s l).resumes = false := by
    cases l with
    | act t a =>
      cases a with
      | activate lines => rfl
      | _ => exact hsteers
    | _ => rfl
  have hblocks' : s'.control.blocks (.resumption hold) = true := by
    have hgeneration := generation_of_step hs
    have hinterrupted := interrupted_of_step hs
    rw [hresumes, if_neg Bool.false_ne_true, UInt64.add_zero] at hgeneration
    rw [hx.starts, hx.interrupts, Bool.or_false, Bool.not_false, Bool.true_and] at hinterrupted
    rw [← hblocks]
    unfold Control.blocks Control.isHeld
    rw [hgeneration, hinterrupted]
  refine isBlocked_iff.2 ⟨hold, hblocks', ?_⟩
  by_cases hl : l.worker? = some run
  · obtain ⟨task, q, ht⟩ := turned_of_step hl hs
    have hwait : task.point.wait? = some (.resumption hold) := by
      rcases hq with hq | hq <;> rw [Option.some.inj (ht.point?.1.symm.trans hq)] <;> rfl
    obtain ⟨-, -, ⟨-, rfl, -⟩ | ⟨hfree, -⟩⟩ := ht.turn.wait_cases hwait
    · exact .inr ht.point?.2
    · cases hblocks.symm.trans hfree
  · obtain he | ⟨-, hnone, -⟩ | ⟨he, -⟩ := (stepped_of_step hs).point?_cases hl
    · rwa [he]
    · rw [hnone] at hq
      rcases hq with hq | hq <;> cases hq
    · rw [he]
      rcases hq with hq | hq <;> rw [hq] <;> exact .inl rfl

end Persistence

theorem Reports.of_due {next : κ → Call κ} {T : κ → Prop} {state : κ} {left : List Position}
    (hT : ∀ state, (next state).Due T True → T state) (h : RunControl.Reports next state left) :
    T state := by
  induction h with
  | finish hstate =>
    refine hT _ ?_
    rw [hstate]
    exact ⟨rfl, trivial⟩
  | pausePoint hstate _ ih | think hstate _ ih | checkInterrupted hstate _ ih | read hstate _ ih
  | write hstate _ ih | clear hstate _ ih | change hstate _ ih | query hstate _ ih
  | position hstate _ ih | resolve hstate _ ih =>
    refine hT _ ?_
    rw [hstate]
    exact ih

/-- Everybody else does their part in the run: calls and callbacks come to an end, and reads are
answered. -/
structure Tended {setup : Setup κ} (e : Schedule setup) (run : RunId) : Prop where
  completes : ∀ n t, (e.state n).isBusy t = true → ∃ k, n ≤ k ∧ e.label k = .complete t
  turns : ∀ n q, (e.state n).point? run = some q → q.isAsleep = false → q ≠ .done →
    ∃ k, n ≤ k ∧ (e.label k).worker? = some run
  answered : ∀ n ask, e.Waits run (.answer ask) n →
    ∃ k, n ≤ k ∧ ∀ j, k ≤ j → e.Waits run (.answer ask) j →
      (e.state j).control.blocks (.answer ask) = false

namespace Schedule

variable {setup : Setup κ} (e : Schedule setup)

/-- The start in the step number `n` is accepted, and nobody interferes with the run but in its
pauses. -/
structure Conducts (next : κ → Call κ) (n : ℕ) (t : Thread) (args : List String)
    (mode : DebugMode) : Prop where
  label : e.label n = .act t (.start args mode)
  starts : (e.moment n).starts = true
  steady : ∀ k, n < k → Moment.Steady next (e.state n).tasks.length (e.moment k)

namespace Conducts

variable {e : Schedule setup} {next : κ → Call κ} {n : ℕ} {t : Thread} {args : List String}
  {mode : DebugMode} {positions : List Position}

theorem moment_eq (h : e.Conducts next n t args mode) :
    e.moment n = ⟨e.state n, .act t (.start args mode)⟩ := by
  rw [moment, h.label]

/-- The run, `d` steps after its start. -/
def session (h : e.Conducts next n t args mode) (d : ℕ) : Session setup next where
  directory := e.directory
  past := e.moments n
  idle := e.state n
  thread := t
  args := args
  mode := mode
  begun := e.state (n + 1)
  moments := e.between (n + 1) d
  state := e.state (n + 1 + d)
  before := e.trail n
  starts := h.moment_eq ▸ h.starts
  begins := h.label ▸ e.step n
  trail := e.trail_between (n + 1) d
  steady x hx := by
    obtain ⟨k, hk, rfl⟩ := e.exists_of_mem_between hx
    exact h.steady k hk

theorem due_succ {P : κ → Prop} {entry exit : Prop} {k : ℕ} (h : e.Conducts next n t args mode)
    (hentry : ∀ m, Reports next (setup.entry m args) positions) (hk : n < k)
    (hP : entry → ∀ m, P (setup.entry m args))
    (hcall : ¬ ∃ c, e.label k = .call (e.state n).tasks.length c)
    (hdue : ∃ q, (e.state k).point? (e.state n).tasks.length = some q ∧ q.Due P entry exit) :
    ∃ q, (e.state (k + 1)).point? (e.state n).tasks.length = some q ∧ q.Due P entry exit := by
  obtain ⟨d, rfl⟩ := Nat.exists_eq_add_of_le (Nat.succ_le_of_lt hk)
  obtain ⟨q, hq, hdue⟩ := hdue
  obtain ⟨task, ht, rfl⟩ := System.point?_eq_some_iff.1 hq
  have hargs : task.args = args := ((h.session d).travels hentry).handed.args task ht
  exact System.due_of_step (fun c hc => hcall ⟨c, hc⟩) (h.session d).onCourse.interrupted
    (h.steady _ hk).smooth ht (hargs ▸ hP) hdue (e.step _)

/-- If the body calls in this state, it makes finitely many calls. -/
def Finishes (e : Schedule setup) (next : κ → Call κ) (n : ℕ) (run : RunId) (state : κ) : Prop :=
  ∀ k, n < k → e.label k = .call run (next state) → (e.state k).point? run = some (.body state) →
    ∃ N, ∀ i c, N ≤ i → e.label i ≠ .call run c

/-- A body whose next call is in a state in which it finishes makes finitely many calls. -/
theorem terminates_of_due {k : ℕ} (h : e.Conducts next n t args mode)
    (hentry : ∀ m, Reports next (setup.entry m args) positions) (hk : n < k)
    (hdue : ∃ q, (e.state k).point? (e.state n).tasks.length = some q ∧
      q.Due (Finishes e next n (e.state n).tasks.length) False True) :
    ∃ N, ∀ i c, N ≤ i → e.label i ≠ .call (e.state n).tasks.length c := by
  by_cases hcall : ∃ i, k ≤ i ∧ ∃ c, e.label i = .call (e.state n).tasks.length c
  · obtain ⟨i, hi, ⟨q, hq, hdue⟩, c, hc⟩ := exists_when hcall hdue fun i hi hdue hno =>
      h.due_succ hentry (hk.trans_le hi) False.elim hno hdue
    have hni := hk.trans_le hi
    obtain ⟨state, hbody, -⟩ := System.step_call (hc ▸ e.step i)
    obtain rfl := Option.some.inj (hq.symm.trans hbody)
    obtain rfl := (h.steady i hni).follows c state hc hbody
    exact hdue i hni hc hbody
  · exact ⟨k, fun i c hi hc => hcall ⟨i, hi, c, hc⟩⟩

/-- **A body that reports its positions makes finitely many calls.** -/
theorem terminates (h : e.Conducts next n t args mode)
    (hentry : ∀ m, Reports next (setup.entry m args) positions) :
    ∃ N, ∀ k c, N ≤ k → e.label k ≠ .call (e.state n).tasks.length c := by
  have hfinishes {state : κ} {left : List Position} (hstate : Reports next state left) :
      Finishes e next n (e.state n).tasks.length state :=
    hstate.of_due fun state hdue k hk hc hbody => by
      obtain ⟨_, -, hs⟩ := System.step_call (hc ▸ e.step k)
      obtain ⟨d, rfl⟩ := Nat.exists_eq_add_of_le (Nat.succ_le_of_lt hk)
      refine h.terminates_of_due hentry (Nat.lt_succ_of_lt hk) ?_
      have hsmooth := (h.steady _ (Nat.lt_of_succ_le (Nat.le_add_right (n + 1) d))).smooth
      rw [hs, Schedule.moment, hc] at *
      exact System.due_of_call (h.session d).onCourse.interrupted hsmooth hbody hdue
  by_cases hcall : ∃ k c, n < k ∧ e.label k = .call (e.state n).tasks.length c
  · -- the positions that are due to the body make sure that it finishes
    obtain ⟨k, c, hk, hc⟩ := hcall
    obtain ⟨state, hbody, -⟩ := System.step_call (hc ▸ e.step k)
    obtain ⟨d, rfl⟩ := Nat.exists_eq_add_of_le (Nat.succ_le_of_lt hk)
    obtain ⟨left, -, hleft⟩ := ((h.session d).travels hentry).due _ hbody
    obtain rfl := (h.steady _ hk).follows c state hc hbody
    exact hfinishes hleft _ hk hc hbody
  · exact ⟨n + 1, fun k c hk hc => hcall ⟨k, c, hk, hc⟩⟩

theorem served (h : e.Conducts next n t args mode)
    (hentry : ∀ m, Reports next (setup.entry m args) positions)
    (htended : Tended e (e.state n).tasks.length) {N : ℕ}
    (hfree : ∀ k, N ≤ k → (e.state k).isBlocked (e.state n).tasks.length = false) :
    Served e (e.state n).tasks.length where
  completes := htended.completes
  turns := htended.turns
  terminates := h.terminates hentry
  answered k w hw := by
    cases w with
    | answer ask => exact htended.answered k ask hw
    | resumption hold =>
      refine ⟨max k N, le_max_left k N, fun j hj hwaits => ?_⟩
      by_contra hblocks
      have hblocked : (e.state j).isBlocked (e.state n).tasks.length = true :=
        System.isBlocked_iff.2 ⟨hold, Bool.eq_true_of_not_eq_false hblocks, hwaits⟩
      cases (hfree j ((le_max_right k N).trans hj)).symm.trans hblocked

/-- **A session to which no more instructions come, comes to rest.** -/
theorem exists_rest (h : e.Conducts next n t args mode)
    (hentry : ∀ m, Reports next (setup.entry m args) positions)
    (htended : Tended e (e.state n).tasks.length)
    (hsilent : ∃ N, ∀ k, N ≤ k → (e.moment k).steers = false) :
    ∃ D, ∀ d, D ≤ d → (h.session d).Rests positions := by
  obtain ⟨N, hN⟩ := hsilent
  obtain ⟨D, hD⟩ : ∃ D, n < D ∧ ∀ k, D ≤ k →
      (e.state k).isBlocked (e.state n).tasks.length = true ∨
        ((e.state k).phase? (e.state n).tasks.length).any Phase.isOver = true := by
    by_cases hblocked : ∃ k, max (n + 1) N ≤ k ∧
        (e.state k).isBlocked (e.state n).tasks.length = true
    · obtain ⟨k, hk, hblocked⟩ := hblocked
      refine ⟨k, (le_max_left _ _).trans hk, fun i hi => .inl ?_⟩
      induction i, hi using Nat.le_induction with
      | base => exact hblocked
      | succ i hi ih =>
        have hki := hk.trans hi
        exact System.isBlocked_of_step (h.steady i ((le_max_left _ _).trans hki))
          (hN i ((le_max_right _ _).trans hki)) ih (e.step i)
    · have hserved := h.served hentry htended fun k hk =>
        Bool.eq_false_of_not_eq_true fun hb => hblocked ⟨k, hk, hb⟩
      obtain ⟨k, hk, hdone⟩ := exists_done hserved h.starts (tasks_of_starts h.starts).1
      refine ⟨k, hk, fun i hi => .inr ?_⟩
      induction i, hi using Nat.le_induction with
      | base =>
        rw [System.phase?, hdone]
        rfl
      | succ i hi ih => exact System.isOver_of_step ih (e.step i)
  exact ⟨D, fun d hd => (h.session d).rests hentry (hD.2 _ (by omega))⟩

end Conducts

end Schedule

/-! ## The sessions of a program -/

/-- What holds of a program that is stepped through, whatever its body. The lines that have been
highlighted are those of the first stops. A session that is blocked is at the stop that its
instructions lead to, and one that is over has made all of its stops; after its last instruction
every session comes to rest. It makes no difference where step-into is chosen and where step-over.
-/
structure Greedy (setup : Setup κ) (next : κ → Call κ) : Prop where
  highlights : ∀ (e : Session setup next) positions, e.Reports positions →
    highlighted e.run e.all <+: (e.stops positions).map Position.line
  rests : ∀ (e : Session setup next) positions, e.Reports positions →
    e.state.isBlocked e.run = true ∨ (e.state.phase? e.run).any Phase.isOver = true →
    e.Rests positions
  settles : ∀ (e : Schedule setup) n t args mode (h : e.Conducts next n t args mode) positions,
    (∀ m, Reports next (setup.entry m args) positions) → Tended e (e.state n).tasks.length →
    (∃ N, ∀ k, N ≤ k → (e.moment k).steers = false) →
    ∃ D, ∀ d, D ≤ d → (h.session d).Rests positions
  interchange : ∀ (s : System κ) labels labels',
    labels.map Label.flat = labels'.map Label.flat →
    (s.steps setup labels).map System.flat = (s.steps setup labels').map System.flat ∧
      ∀ run, announced run (s.moments setup labels) = announced run (s.moments setup labels') ∧
        ∀ o, heard run o (s.moments setup labels) = heard run o (s.moments setup labels')

/-- **The sessions of a program are those of the reference stepper.** -/
theorem greedy (setup : Setup κ) (next : κ → Call κ) : Greedy setup next where
  highlights e _ h := e.highlighted_prefix h
  rests e _ h hrest := e.rests h hrest
  settles _ _ _ _ _ h _ hentry htended hsilent := h.exists_rest hentry htended hsilent
  interchange _ _ _ h :=
    ⟨System.steps_eq_of_flat h, fun _ =>
      ⟨(heard_eq_of_flat (o := "") (System.moments_eq_of_flat h)).1,
        fun _ => (heard_eq_of_flat (System.moments_eq_of_flat h)).2⟩⟩

/-- A body with two positions. -/
def twoPositions : ℕ → Call ℕ
  | 0 => .pausePoint ⟨1, 1⟩ fun _ => 1
  | 1 => .pausePoint ⟨2, 1⟩ fun _ => 2
  | _ => .finish (.ok ())

/-- From its start to the first position. -/
def untilFirst : List (Label ℕ) :=
  [.complete (.controller 0), .advance 0 0, .advance 0 0, .advance 0 0, .advance 0 0,
    .call 0 (twoPositions 0), .advance 0 0, .advance 0 0, .advance 0 0, .advance 0 0]

/-- There the run is resumed, and goes on to its end. -/
def untilEnd : List (Label ℕ) :=
  [.act (.controller 1) (.resume .breakpoint), .advance 0 0, .advance 0 0, .advance 0 0,
    .call 0 (twoPositions 1), .call 0 (twoPositions 2), .advance 0 0, .advance 0 0, .advance 0 0,
    .advance 0 0, .advance 0 0]

/-- A run that stops once. -/
def oneStop : Session (Setup.bare 0) twoPositions where
  directory := ""
  past := []
  idle := System.initial (Setup.bare 0) ""
  thread := .controller 0
  args := []
  mode := .stepInto
  begun := (System.initial (Setup.bare 0) "").act (.controller 0) (.start [] .stepInto)
  moments := ((System.initial (Setup.bare 0) "").act (.controller 0)
    (.start [] .stepInto)).moments (Setup.bare 0) (untilFirst ++ untilEnd)
  state := _
  before := .nil
  starts := rfl
  begins := rfl
  trail := trail_of_steps rfl
  steady := by
    repeat' first
      | exact List.forall_mem_nil _
      | refine List.forall_mem_cons.2 ⟨?_, ?_⟩
    all_goals
      exact ⟨fun c state hl hq => by cases hl <;> cases hq <;> rfl, rfl, rfl, rfl,
        by decide +kernel⟩

theorem greedy_oneStop :
    let positions := [⟨1, 1⟩, ⟨2, 1⟩]
    oneStop.Reports positions ∧ oneStop.stops positions = [⟨1, 1⟩] ∧
      instructions oneStop.moments = [⟨none, .breakpoint⟩] ∧ oneStop.Rests positions := by
  have hreports : oneStop.Reports [⟨1, 1⟩, ⟨2, 1⟩] :=
    fun _ => .pausePoint rfl (.pausePoint rfl (.finish rfl))
  exact ⟨hreports, by decide +kernel, rfl,
    (greedy (Setup.bare 0) twoPositions).rests oneStop _ hreports (.inr rfl)⟩

end RunControl
