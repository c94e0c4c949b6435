import Mathlib.Data.List.Basic
import RunControl.Application
import RunControl.Proofs.Unstuck

/-!
# Worker and command loop never compete for the input

The worker and the command loop read from the same input, and no lock keeps them apart. Only the
pauses do: the loop reads while the program is paused, and the program reads while the loop waits.
Which side takes which line, what is shown and how it ends is thus the same in every execution.

* `Terminal.IsConnected`: somebody can still send a notice to the loop;
* `Terminal.Concluded`: what has come of an execution, less the time;
* `Uncontested`: what holds of all executions with a plan and an input;
* **`uncontested`**: it holds for all plans and inputs.
-/

namespace RunControl

/-- The observers that a worker has still to call, from a list that it has taken. -/
def Point.watchers {κ : Type} : Point κ → List ObserverId
  | telling _ queue _ | finishing _ queue | ending _ queue => queue
  | _ => []

/-- A text that is shown on the stream. -/
def Shown.on? (stream : Stream) : Shown → Option String
  | text s x => if s = stream then some x else none
  | log _ => none

/-- The texts on a stream, in order. -/
def Ending.output (e : Ending) (stream : Stream) : List String :=
  e.shown.filterMap (Shown.on? stream)

/-- What is shown on a stream in the end, in order, when the run has this result. -/
def TerminalPlan.output (p : TerminalPlan) (d : Dialogue) (result : RunResult) (stream : Stream) :
    List String :=
  (if p.stream = stream then d.texts.reverse else []) ++ match d.failure with
    | none => if Stream.stdout = stream then [p.report result] else []
    | some message => if Stream.stderr = stream then [Ending.failureText message none] else []

namespace Terminal

/-- The mode in which the loop resumes the run in a step. -/
def Move.chosen? (x : Move) : Option DebugMode :=
  match x.tick with
  | .go side => x.state.chosen? side
  | .wake => none

/-- The modes in which the loop has resumed the run, latest first. -/
def modes (m : List Move) : List DebugMode := m.filterMap Move.chosen?

/-- The observer that sends notices to the loop is registered, or the worker has still to call
it. -/
def IsConnected (t : Terminal) : Prop :=
  watcher ∈ t.system.roster.members ∨ ∃ q, t.system.point? run = some q ∧ watcher ∈ q.watchers

/-- What has come of an execution that leads to `t`: all that a dialogue says. The result is
determined but for the time, and nothing but the report shows the time. -/
structure Concluded (p : TerminalPlan) (d : Dialogue) (m : List Move) (t : Terminal) : Prop where
  readers : t.readers = d.readers
  modes : modes m = d.modes
  outcome : ∃ result, d.result = some result.timeless ∧
    t.loop = .done (match d.failure with
      | none => .ok result.termination
      | some message => .error message) ∧
    (∀ stream, (Application.endOf t).output stream = p.output d result stream) ∧
    (Application.endOf t).status = match d.failure with
      | none => result.termination.exitCode
      | some _ => 1

variable {p : TerminalPlan} {input : List ConsoleLine} {m : List Move} {t t₀ t' : Terminal}
  {h : History} {q : Point Body} {elapsed : ℕ}

/-! ## Who reads -/

theorem loopReads_iff :
    t.loopReads = true ↔ t.system.isBusy loopThread = false ∧ t.loop = .prompting := by
  rw [loopReads, Bool.and_eq_true, Bool.not_eq_true']
  refine and_congr_right fun _ => ?_
  cases t.loop <;> simp

theorem programReads_iff : t.programReads = true ↔ t.system.isBusy (.worker run) = false ∧
    (∃ ask provider, t.system.point? run = some (.asking ask provider)) ∧ t.console = .idle := by
  rw [programReads, Bool.and_eq_true, Bool.not_eq_true']
  refine and_congr_right fun _ => ?_
  split
  · next ask provider hq hc => simp [hq, hc]
  · next hno =>
    refine ⟨(fun h => by cases h), ?_⟩
    rintro ⟨⟨ask, provider, hq⟩, hc⟩
    exact absurd hc (hno _ _ hq)

/-- When the program is about to read, it works, and the loop has nothing to do. -/
theorem Standing.goes_of_programReads (hst : t.Standing) (hreads : t.programReads = true) :
    ∃ q, t.Goes q := by
  obtain ⟨-, ⟨ask, provider, hq⟩, -⟩ := programReads_iff.1 hreads
  cases hst with
  | starting _ htasks | submitted _ htasks =>
    rw [point?_of_unstarted htasks] at hq
    cases hq
  | working hg => exact ⟨_, hg⟩
  | paused hp =>
    have hpauses := hp.pauses
    rw [Option.some.inj (hp.sole.point?.symm.trans hq)] at hpauses
    cases hpauses
  | ended hq' ho =>
    rw [Option.some.inj (hq'.point?.symm.trans hq)] at ho
    exact ho.elim

theorem Goes.not_prompting (hg : t.Goes q) : t.loop ≠ .prompting := by
  intro hloop
  have hquiet := hg.quiet
  rw [hloop] at hquiet
  cases hquiet

theorem Goes.lineHighlighted_not_mem (hg : t.Goes q) (line : UInt32) :
    .lineHighlighted line ∉ t.events := by
  intro hmem
  have hnone := hg.events
  rw [List.filter_eq_nil_iff] at hnone
  exact hnone _ hmem rfl

/-! ## The loop is heard, and hears -/

theorem loopReads_of_chosen {mode : DebugMode} (hchosen : t.chosen? .loop = some mode) :
    t.loopReads = true := by
  by_contra hno
  rw [chosen?, if_neg hno] at hchosen
  cases hchosen

theorem Standing.resume_of_chosen {mode : DebugMode} (hst : t.Standing)
    (hchosen : t.chosen? .loop = some mode) (hs : t.stepLoop = some t') :
    t.system.control.resume mode = some t'.system.control := by
  have hreads := loopReads_of_chosen hchosen
  rw [chosen?, if_pos hreads] at hchosen
  obtain ⟨hb, hloop⟩ := loopReads_iff.1 hreads
  obtain ⟨q, hold, hp, -⟩ := hst.exists_paused (.inl hloop)
  obtain ⟨line, hline, hmode⟩ := Option.bind_eq_some_iff.1 hchosen
  rw [stepLoop, if_neg (by simp [hb])] at hs
  simp only [hloop, takeCommand, takeLine, hline] at hs
  cases line with
  | garbled => cases hmode
  | text s =>
    rw [ConsoleLine.mode?] at hmode
    cases hcommand : Command.ofText s with
    | error word =>
      rw [hcommand] at hmode
      cases hmode
    | ok command =>
      rw [hcommand] at hmode
      simp only at hmode
      simp only [hcommand, hmode] at hs
      obtain ⟨c, hc⟩ : ∃ c, t.system.control.resume mode = some c :=
        ⟨_, Control.resume_eq_some_iff.2 ⟨hp.isRunning, rfl⟩⟩
      rw [stepSystem_act (by exact hp.sole.aborted) (by exact mayAct_loop hb)] at hs
      obtain rfl := Option.some.inj hs
      rw [hc]
      exact congrArg some (congrArg System.control (System.act_resume hc).symm)

theorem Goes.isConnected (hg : t.Goes q) : t.IsConnected := by
  have hworks := hg.working
  have hpoint := hg.sole.point?
  have hmembers (h : t.system.roster.members = [watcher]) : t.IsConnected :=
    .inl (by rw [h]; exact List.mem_singleton_self _)
  cases q with
  | finishing result watchers =>
    exact .inr ⟨_, hpoint, by rw [Point.watchers, hworks.1]; exact List.mem_singleton_self _⟩
  | initializing left | finalizing left outcome =>
    cases left with
    | nil => exact hmembers hworks.1
    | cons library left => exact hworks.elim
  | closingRead exit =>
    cases exit with
    | answer state => exact hmembers hworks.1
    | unwind message => exact hworks.elim
  | telling notice queue after => cases after <;> exact hmembers hworks.1
  | awaiting ask | awaitingAsleep ask | ending result queue | done => exact hworks.elim
  | _ => exact hmembers hworks.1

theorem Standing.isConnected (hst : t.Standing) (hevents : t.events = []) : t.IsConnected := by
  have hfree (hf : t.Free) : t.IsConnected :=
    .inl (by rw [hf.members]; exact List.mem_singleton_self _)
  cases hst with
  | starting _ _ _ _ hf | submitted _ _ _ _ hf => exact hfree hf
  | working hg => exact hg.isConnected
  | paused hp => exact hfree hp.free
  | @ended q result hq ho _ hnews =>
    rw [hq.news, hevents] at hnews
    cases q with
    | ending result queue =>
      cases queue with
      | nil => cases hnews
      | cons o queue =>
        obtain rfl := ho o (List.mem_cons_self ..)
        exact .inr ⟨_, hq.point?, List.mem_cons_self ..⟩
    | done => cases hnews
    | _ => exact ho.elim

/-! ## The end -/

theorem modes_of (m : List Move) : (History.of m).modes = modes m := by
  induction m with
  | nil => rfl
  | cons x m ih =>
    obtain ⟨t, tick⟩ := x
    cases tick with
    | go side =>
      have hx : (⟨t, .go side⟩ : Move).chosen? = t.chosen? side := rfl
      rw [History.of, History.next, ih, modes, modes, List.filterMap_cons, hx]
      cases t.chosen? side <;> rfl
    | wake => exact ih

/-- On the stream for all but the report there are all texts, on the other one there is none. -/
theorem Tidy.filterMap_on (ht : t.Tidy) (stream : Stream) :
    t.shown.filterMap (Shown.on? stream) = if t.plan.stream = stream then t.texts else [] := by
  have hon (x : Shown) (hx : x ∈ t.shown) :
      x.on? stream = if t.plan.stream = stream then x.text? else none := by
    cases x with
    | log r => split_ifs <;> rfl
    | text stream' s =>
      rw [ht stream' s hx]
      rfl
  rw [List.filterMap_congr hon, texts]
  split_ifs
  · rfl
  · exact List.filterMap_none _

theorem filterMap_on_text (stream stream' : Stream) (s : String) :
    [Shown.text stream' s].filterMap (Shown.on? stream) = if stream' = stream then [s] else [] := by
  simp only [List.filterMap_cons, Shown.on?, List.filterMap_nil]
  split_ifs <;> rfl

/-- **What has come of an execution is what the dialogue says.** -/
theorem Trail.concluded (ht : Trail p input m t) (hd : t.isDone = true) :
    Concluded p (p.dialogue input) m t := by
  obtain hu | ⟨m₀, t₀, rfl, hu, hof, q, result, -, -, hfate, hconcludes⟩ := ht.cases
  · cases hd.symm.trans hu.standing.isDone
  rw [← hu.fate, hfate]
  obtain rfl := hu.plan
  have htexts (stream : Stream) : t₀.shown.reverse.filterMap (Shown.on? stream) =
      if t₀.plan.stream = stream then t₀.texts.reverse else [] := by
    rw [List.filterMap_reverse, hu.tidy.filterMap_on]
    split_ifs <;> rfl
  have hmodes : modes (⟨t₀, .go .loop⟩ :: m₀) = (History.of m₀).modes := by rw [← modes_of, hof]
  cases hconcludes with
  | report hloop =>
    refine ⟨rfl, hmodes, result, rfl, ?_⟩
    simp only [dialogue, hloop]
    refine ⟨rfl, fun stream => ?_, rfl⟩
    simp only [Ending.output, Application.endOf, List.reverse_cons, List.filterMap_append, htexts,
      filterMap_on_text]
    rfl
  | leave hloop =>
    refine ⟨rfl, hmodes, result, rfl, ?_⟩
    simp only [dialogue, hloop]
    refine ⟨rfl, fun stream => ?_, rfl⟩
    simp only [Ending.output, Application.endOf, List.filterMap_append, htexts, filterMap_on_text]
    rfl

theorem Trail.underway (ht : Trail p input m t) (hd : t.isDone = false) : Underway p input m t := by
  obtain hu | ⟨m₀, t₀, -, -, -, hc⟩ := ht.cases
  · exact hu
  · cases hd.symm.trans hc.isDone

/-! ## All executions -/

/-- What holds of all executions with a plan and an input. The two sides are never both about to
read: when the loop is, the worker is in a pause that nobody has ended, and when the program is, the
loop has answered every pause that it was told of. A line is taken exactly when a side that is about
to read goes on, and the lines are taken in order. A command to resume is accepted. Until the loop
is done, somebody can go on, and there is a notice to receive or somebody can send one. Whatever the
order of the steps, the same comes of it in the end, which is not far: a worker that wakes up for no
reason costs two steps more. -/
structure Uncontested (p : TerminalPlan) (input : List ConsoleLine) : Prop where
  exclusive : ∀ {m t}, Trail p input m t → ¬ (t.loopReads = true ∧ t.programReads = true)
  paused : ∀ {m t}, Trail p input m t → t.loopReads = true →
    ∃ q hold, t.system.point? run = some q ∧ q.pauses? = some hold ∧
      t.system.control.isHeld hold.generation = true
  answered : ∀ {m t}, Trail p input m t → t.programReads = true →
    t.loop.isQuiet = true ∧ ∀ line, .lineHighlighted line ∉ t.events
  taken : ∀ {m t t' side elapsed}, Trail p input m t → t.step elapsed (.go side) = some t' →
    t'.readers = if t.reads side then side :: t.readers else t.readers
  woken : ∀ {m t t' elapsed}, Trail p input m t → t.step elapsed .wake = some t' →
    t'.readers = t.readers
  inOrder : ∀ {m t}, Trail p input m t → t.input = input.drop t.readers.length
  resumed : ∀ {m t t' mode elapsed}, Trail p input m t → t.chosen? .loop = some mode →
    t.step elapsed (.go .loop) = some t' → t.system.control.resume mode = some t'.system.control
  connected : ∀ {m t}, Trail p input m t → t.isDone = false → t.events = [] → t.IsConnected
  determined : ∀ {m t}, Trail p input m t → t.isDone = true →
    Concluded p (p.dialogue input) m t
  goesOn : ∀ {m t} (elapsed : ℕ), Trail p input m t → t.isDone = false →
    ∃ side t', t.step elapsed (.go side) = some t'
  ends : ∀ {m t}, Trail p input m t → m.length ≤ p.patience input + 2 * wakes m

theorem isDone_of_loopReads (hreads : t.loopReads = true) : t.isDone = false := by
  rw [isDone, (loopReads_iff.1 hreads).2]

theorem Trail.goes_of_programReads (ht : Trail p input m t) (hreads : t.programReads = true) :
    ∃ q, t.Goes q := by
  obtain hu | ⟨m₀, t₀, -, hu, -, q, result, hq, ho, -, hc⟩ := ht.cases
  · exact hu.standing.goes_of_programReads hreads
  · -- the worker of a run that is over does not read
    have hsystem : t.system = t₀.system := by cases hc <;> rfl
    obtain ⟨-, ⟨ask, provider, hpoint⟩, -⟩ := programReads_iff.1 hreads
    rw [hsystem, hq.point?] at hpoint
    obtain rfl := Option.some.inj hpoint
    exact ho.elim

/-- **Worker and command loop never compete for the input.** -/
theorem uncontested (p : TerminalPlan) (input : List ConsoleLine) : Uncontested p input where
  exclusive := by
    rintro m t ht ⟨hloop, hprogram⟩
    obtain ⟨q, hg⟩ := ht.goes_of_programReads hprogram
    exact hg.not_prompting (loopReads_iff.1 hloop).2
  paused := fun ht hreads => by
    obtain ⟨q, hold, hp, -⟩ := (ht.underway (isDone_of_loopReads hreads)).standing.exists_paused
      (.inl (loopReads_iff.1 hreads).2)
    exact ⟨q, hold, hp.sole.point?, hp.pauses, hp.held⟩
  answered := fun ht hreads => by
    obtain ⟨q, hg⟩ := ht.goes_of_programReads hreads
    exact ⟨hg.quiet, hg.lineHighlighted_not_mem⟩
  taken := fun _ hs => (stepped_of_step hs).readers
  woken := fun _ hs => by
    obtain ⟨system, -, rfl⟩ := Option.map_eq_some_iff.1 hs
    rfl
  inOrder := fun ht => by
    obtain hu | ⟨m₀, t₀, -, hu, -, q, result, -, -, -, hc⟩ := ht.cases
    · exact hu.input
    · cases hc <;> exact hu.input
  resumed := fun ht hchosen hs =>
    (ht.underway (isDone_of_loopReads (loopReads_of_chosen hchosen))).standing.resume_of_chosen
      hchosen hs
  connected := fun ht hd hevents => (ht.underway hd).standing.isConnected hevents
  determined := fun ht hd => ht.concluded hd
  goesOn := fun elapsed ht hd => (ht.underway hd).exists_step elapsed
  ends := fun ht => ht.length_le

/-- After an unknown command the loop reads again, and then the program reads two values. -/
example : (TerminalPlan.dialogue
    { demo := .sum, args := [], mode := .stepOver, breakpoints := [], workingDirectory := "."
      format := .text, styled := false }
    [.text "x\n", .text "c\n", .text "2\n", .text "3\n"]).readers =
      [.worker, .worker, .loop, .loop] := by
  decide +kernel

end Terminal

end RunControl
