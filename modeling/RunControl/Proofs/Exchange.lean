import RunControl.Proofs.Commanding
import RunControl.Proofs.Proceeding

/-!
# What happens at a terminal

`Terminal.Trail p input m t`: the steps of `m` lead to the terminal `t`, in any order in which the
worker and the command loop may take them.

* `Terminal.stepped_of_step`: a step of a terminal is one of the system, or leaves the system alone;
  it takes a line exactly if the side is about to read;
* `Terminal.Trail.reachable`: all that holds of a supervisor holds of that of a terminal;
* **`Terminal.Trail.cases`**: the loop is not done and everything is `Underway`, or it has just
  become done.
-/

namespace RunControl

namespace Terminal

/-- A step at a terminal, and the state before it. -/
structure Move where
  state : Terminal
  tick : Tick

/-- How often the worker has woken up for no reason. -/
def wakes (m : List Move) : ℕ := m.countP fun x => x.tick = .wake

/-- The steps of `m`, the latest first, lead from the beginning to a state; the last of them may be
the one with which the loop is done. -/
inductive Trail (p : TerminalPlan) (input : List ConsoleLine) : List Move → Terminal → Prop
  | nil : Trail p input [] (initial p input)
  | cons {m : List Move} {t t' : Terminal} {tick : Tick} {elapsed : ℕ} : Trail p input m t →
    t.isDone = false → t.step elapsed tick = some t' → Trail p input (⟨t, tick⟩ :: m) t'

/-- The side is about to read a line. -/
def reads (t : Terminal) : Side → Bool
  | .worker => t.programReads
  | .loop => t.loopReads

/-- All texts have been shown on the stream for all but the report. -/
def Tidy (t : Terminal) : Prop :=
  ∀ stream s, Shown.text stream s ∈ t.shown → stream = t.plan.stream

variable {p : TerminalPlan} {input : List ConsoleLine} {m : List Move} {t t₁ t' : Terminal}
  {h : History} {side : Side} {elapsed : ℕ} {l : Label Body}

/-! ## One step -/

/-- What a step of a side does, whatever it is. -/
structure Stepped (t t' : Terminal) (side : Side) : Prop where
  plan : t'.plan = t.plan
  system : t'.system = t.system ∨ ∃ l, t.system.step t.plan.setup l = some t'.system
  input : t'.input = if t.reads side then t.input.tail else t.input
  readers : t'.readers = if t.reads side then side :: t.readers else t.readers
  tidy : t.Tidy → t'.isDone = false → t'.Tidy

namespace Stepped

theorem log (h : t.Stepped t' side) (r : LogRecord) : t.Stepped (t'.log r) side where
  plan := h.plan
  system := h.system
  input := h.input
  readers := h.readers
  tidy := fun ht hd stream s hs => h.tidy ht hd stream s (by simpa [Terminal.log] using hs)

theorem of_system (hs : t₁.stepSystem l = some t') (hplan : t₁.plan = t.plan)
    (hsystem : t₁.system = t.system)
    (hinput : t₁.input = if t.reads side then t.input.tail else t.input)
    (hreaders : t₁.readers = if t.reads side then side :: t.readers else t.readers)
    (htidy : t.Tidy → t₁.Tidy) : t.Stepped t' side := by
  obtain ⟨system, hstep, rfl⟩ := Option.map_eq_some_iff.1 hs
  rw [hsystem, hplan] at hstep
  exact ⟨hplan, .inr ⟨l, hstep⟩, hinput, hreaders, fun ht _ => htidy ht⟩

theorem of_stepSystem (hs : t.stepSystem l = some t') (hreads : t.reads side = false) :
    t.Stepped t' side :=
  of_system hs rfl rfl (by rw [hreads]; rfl) (by rw [hreads]; rfl) id

end Stepped

theorem Tidy.say (ht : t.Tidy) (s : String) : (t.say s).Tidy := by
  intro stream x hx
  obtain hx | hx := List.mem_cons.1 hx
  · exact (Shown.text.inj hx).1
  · exact ht stream x hx

theorem Tidy.foldl_say (ht : t.Tidy) (texts : List String) : (texts.foldl Terminal.say t).Tidy := by
  induction texts generalizing t with
  | nil => exact ht
  | cons s texts ih => exact ih (ht.say s)

theorem stepped_interrupt (hs : t₁.interrupt = some t') (hplan : t₁.plan = t.plan)
    (hsystem : t₁.system = t.system)
    (hinput : t₁.input = if t.reads side then t.input.tail else t.input)
    (hreaders : t₁.readers = if t.reads side then side :: t.readers else t.readers)
    (htidy : t.Tidy → t₁.Tidy) : t.Stepped t' side := by
  obtain ⟨next, hnext, rfl⟩ := Option.map_eq_some_iff.1 hs
  have hstepped := Stepped.of_system hnext hplan hsystem hinput hreaders htidy
  split_ifs
  · exact hstepped.log _
  · exact hstepped

theorem stepped_takeCommand (hreads : t.loopReads = true) (hs : t.takeCommand = some t') :
    t.Stepped t' .loop := by
  have hinput : t.input.tail = if t.reads .loop then t.input.tail else t.input :=
    (if_pos hreads).symm
  have hreaders :
      Side.loop :: t.readers = if t.reads .loop then .loop :: t.readers else t.readers :=
    (if_pos hreads).symm
  simp only [takeCommand, takeLine] at hs
  split at hs
  · exact stepped_interrupt hs rfl rfl hinput hreaders id
  · obtain rfl := Option.some.inj hs
    exact ⟨rfl, .inl rfl, hinput, hreaders, fun ht _ => ht⟩
  · split at hs
    · obtain rfl := Option.some.inj hs
      exact ⟨rfl, .inl rfl, hinput, hreaders, fun ht _ => (Tidy.say (by exact ht) _).say _⟩
    · split at hs
      · exact .of_system hs rfl rfl hinput hreaders id
      · exact stepped_interrupt hs rfl rfl hinput hreaders id

theorem stepped_receive {first : Notice} {rest : List Notice} (hreads : t.reads .loop = false) :
    t.Stepped ({ t with events := rest }.receive first) .loop := by
  cases first with
  | lineHighlighted line =>
    refine ⟨?_, .inl ?_, ?_, ?_, fun ht _ => ?_⟩
    · rw [receive_lineHighlighted]
    · rw [receive_lineHighlighted]
    · rw [receive_lineHighlighted, hreads]
      rfl
    · rw [receive_lineHighlighted, hreads]
      rfl
    · exact ((Tidy.say (by exact ht) _).foldl_say _).say _
  | ended result =>
    exact ⟨rfl, .inl rfl, by rw [hreads]; rfl, by rw [hreads]; rfl, fun _ hd => by cases hd⟩
  | started | paused | resumed =>
    exact ⟨rfl, .inl rfl, by rw [hreads]; rfl, by rw [hreads]; rfl, fun ht _ => ht⟩

theorem stepped_stepLoop (hs : t.stepLoop = some t') : t.Stepped t' .loop := by
  rw [stepLoop] at hs
  by_cases hb : t.system.isBusy loopThread = true
  · rw [if_pos hb] at hs
    exact .of_stepSystem hs (by rw [reads, loopReads, hb]; rfl)
  · rw [if_neg hb] at hs
    replace hb : t.system.isBusy loopThread = false := by simpa using hb
    split at hs
    · next hloop =>
      have hreads : t.reads .loop = false := by rw [reads, loopReads, hloop]; simp
      obtain ⟨next, hnext, rfl⟩ := Option.map_eq_some_iff.1 hs
      obtain ⟨system, hstep, rfl⟩ := Option.map_eq_some_iff.1 hnext
      refine Stepped.log ?_ _
      exact ⟨rfl, .inr ⟨_, hstep⟩, by rw [hreads]; rfl, by rw [hreads]; rfl, fun ht _ => ht⟩
    · next hloop =>
      have hreads : t.reads .loop = false := by rw [reads, loopReads, hloop]; simp
      split at hs
      · cases hs
      · next first rest hevents =>
        obtain rfl := Option.some.inj hs
        exact stepped_receive hreads
    · next hloop => exact stepped_takeCommand (by rw [loopReads, hb, hloop]; rfl) hs
    · next message hloop =>
      have hreads : t.reads .loop = false := by rw [reads, loopReads, hloop]; simp
      exact stepped_interrupt hs rfl rfl (by rw [hreads]; rfl) (by rw [hreads]; rfl) id
    · next message hloop =>
      have hreads : t.reads .loop = false := by rw [reads, loopReads, hloop]; simp
      split_ifs at hs
      obtain rfl := Option.some.inj hs
      exact ⟨rfl, .inl rfl, by rw [hreads]; rfl, by rw [hreads]; rfl, fun ht _ => ht⟩
    · cases hs

theorem stepped_stepConsole {ask : Ask Body} {provider : ProviderId}
    (hb : t.system.isBusy (.worker run) = false)
    (hq : t.system.point? run = some (.asking ask provider)) (hs : t.stepConsole ask = some t') :
    t.Stepped t' .worker := by
  cases hconsole : t.console with
  | idle =>
    have hreads : t.reads .worker = true := by rw [reads, programReads, hb, hq, hconsole]; rfl
    simp only [stepConsole, hconsole] at hs
    obtain rfl := Option.some.inj hs
    have hread : t.Stepped { (t.takeLine .worker).2 with
        console := .entered (Entered.ofLine ask.type t.input.head?).answer } .worker :=
      ⟨rfl, .inl rfl, (if_pos hreads).symm, (if_pos hreads).symm, fun ht _ => ht⟩
    split
    · exact hread.log _
    · exact hread
  | entered answer =>
    have hreads : t.reads .worker = false := by rw [reads, programReads, hb, hq, hconsole]; rfl
    simp only [stepConsole, hconsole] at hs
    exact .of_system hs rfl rfl (by rw [hreads]; rfl) (by rw [hreads]; rfl) id
  | answered =>
    have hreads : t.reads .worker = false := by rw [reads, programReads, hb, hq, hconsole]; rfl
    simp only [stepConsole, hconsole] at hs
    exact .of_system hs rfl rfl (by rw [hreads]; rfl) (by rw [hreads]; rfl) id

theorem stepped_stepAt {q : Point Body} (hb : t.system.isBusy (.worker run) = false)
    (hq : t.system.point? run = some q) (hs : t.stepAt elapsed q = some t') :
    t.Stepped t' .worker := by
  by_cases hask : ∃ ask provider, q = .asking ask provider
  · obtain ⟨ask, provider, rfl⟩ := hask
    exact stepped_stepConsole hb hq hs
  · have hreads : t.reads .worker = false := by
      rw [reads, programReads, hb, hq]
      cases q <;> first | rfl | exact absurd ⟨_, _, rfl⟩ hask
    have hinput : t.input = if t.reads .worker then t.input.tail else t.input := by
      rw [hreads]
      rfl
    have hreaders : t.readers = if t.reads .worker then .worker :: t.readers else t.readers := by
      rw [hreads]
      rfl
    cases q with
    | telling notice queue after =>
      cases queue with
      | nil => exact .of_stepSystem hs hreads
      | cons o queue => exact .of_system hs rfl rfl hinput hreaders id
    | ending result queue =>
      cases queue with
      | nil => exact .of_stepSystem hs hreads
      | cons o queue => exact .of_system hs rfl rfl hinput hreaders id
    | asking ask provider => exact absurd ⟨_, _, rfl⟩ hask
    | writing v sink next => exact .of_system hs rfl rfl hinput hreaders fun ht => ht.say _
    | clearing sink next => exact .of_system hs rfl rfl hinput hreaders fun ht => ht.say _
    | queued =>
      obtain ⟨next, hnext, rfl⟩ := Option.map_eq_some_iff.1 hs
      exact (Stepped.of_stepSystem hnext hreads).log _
    | finishing result watchers =>
      obtain ⟨next, hnext, rfl⟩ := Option.map_eq_some_iff.1 hs
      exact (Stepped.of_stepSystem hnext hreads).log _
    | _ => exact .of_stepSystem hs hreads

theorem stepped_stepWorker (hs : t.stepWorker elapsed = some t') : t.Stepped t' .worker := by
  rw [stepWorker] at hs
  by_cases hb : t.system.isBusy (.worker run) = true
  · rw [if_pos hb] at hs
    exact .of_stepSystem hs (by rw [reads, programReads, hb]; rfl)
  · rw [if_neg hb] at hs
    replace hb : t.system.isBusy (.worker run) = false := by simpa using hb
    split at hs
    · cases hs
    · cases hs
    · next q _ _ hq => exact stepped_stepAt hb hq hs
    · cases hs

/-- **Every step is one of the system, or leaves it alone, and takes a line exactly if the side is
about to read.** -/
theorem stepped_of_step (hs : t.step elapsed (.go side) = some t') : t.Stepped t' side := by
  cases side with
  | worker => exact stepped_stepWorker hs
  | loop => exact stepped_stepLoop hs

/-! ## The beginning -/

/-- The supervisor before the loop starts the run. -/
def supervisor (p : TerminalPlan) : System Body :=
  { System.initial p.setup p.workingDirectory with
    control := (Control.initial p.demo.info.lineCount).activate p.breakpoints
    roster := ⟨[watcher]⟩
    snapshot := (Snapshot.Change.configure p.demo.layout.1 p.demo.layout.2.1
      p.demo.layout.2.2).apply Snapshot.empty }

theorem reachable_supervisor (p : TerminalPlan) : Reachable p.setup (supervisor p) := by
  refine ⟨p.workingDirectory, _, .cons (l := .act loopThread (.addObserver watcher)) (.cons
    (l := .act loopThread (.activate p.breakpoints)) (.cons (l := .act loopThread (.change
      (.configure p.demo.layout.1 p.demo.layout.2.1 p.demo.layout.2.2))) .nil rfl) rfl) rfl⟩

theorem exists_initial (p : TerminalPlan) (input : List ConsoleLine) : ∃ shown : List Shown,
    initial p input = ⟨p, supervisor p, [], input, [], shown, .starting, .idle⟩ ∧
      shown.filterMap Shown.text? = [] ∧ ∀ stream s, Shown.text stream s ∉ shown := by
  rw [initial]
  simp only
  split_ifs
  · exact ⟨[], rfl, rfl, by simp⟩
  · exact ⟨[.log (ignoredRecord p.ignored)], rfl, rfl, by simp⟩

/-! ## All steps -/

/-- What the moves tell of the past. -/
def History.of : List Move → History
  | [] => ⟨[], 0⟩
  | ⟨t, .go side⟩ :: m => (History.of m).next t side
  | ⟨_, .wake⟩ :: m => History.of m

/-- What holds until the loop is done. What will have been said is the dialogue, and the lines have
been taken in order. -/
structure Underway (p : TerminalPlan) (input : List ConsoleLine) (m : List Move) (t : Terminal) :
    Prop where
  plan : t.plan = p
  reachable : Reachable p.setup t.system
  standing : t.Standing
  fate : t.fate (History.of m) = p.dialogue input
  pace : m.length + t.labour ≤
    120 + 100 * (History.of m).calls + 8 * t.readers.length + 2 * wakes m
  input : t.input = input.drop t.readers.length
  tidy : t.Tidy

theorem underway_initial (p : TerminalPlan) (input : List ConsoleLine) :
    Underway p input [] (initial p input) := by
  obtain ⟨shown, he, htexts, hnone⟩ := exists_initial p input
  rw [he]
  exact
    { plan := rfl
      reachable := reachable_supervisor p
      standing := .starting rfl rfl rfl rfl ⟨rfl, rfl⟩ rfl rfl
      fate := by
        rw [fate_of_unstarted rfl, TerminalPlan.dialogue, settled, news_of_unstarted rfl rfl]
        simp only [dialogue, texts, htexts]
        rfl
      pace := by
        rw [labour_of_unstarted rfl]
        exact le_rfl
      input := rfl
      tidy := fun stream s hs => absurd hs (hnone stream s) }

theorem wakes_go (m : List Move) : wakes (⟨t, .go side⟩ :: m) = wakes m :=
  List.countP_cons_of_neg (by simp)

theorem wakes_wake (m : List Move) : wakes (⟨t, .wake⟩ :: m) = wakes m + 1 :=
  List.countP_cons_of_pos (by simp)

theorem Underway.step (hu : Underway p input m t) (hd : t'.isDone = false)
    (hs : t.step elapsed (.go side) = some t')
    (hk : t.Kept t' (History.of m) ((History.of m).next t side)) :
    Underway p input (⟨t, .go side⟩ :: m) t' := by
  have hstepped := stepped_of_step hs
  obtain ⟨rfl⟩ := hu.plan
  exact
    { plan := hk.plan
      reachable := by
        obtain he | ⟨l, hl⟩ := hstepped.system
        · rw [he]
          exact hu.reachable
        · exact hu.reachable.step hl
      standing := hk.standing
      fate := hk.fate.trans hu.fate
      pace := by
        have hbefore := hu.pace
        have hafter := hk.pace
        simp only [History.of, List.length_cons, wakes_go]
        omega
      input := by
        rw [hstepped.input, hstepped.readers, hu.input]
        split_ifs <;> simp
      tidy := hstepped.tidy hu.tidy hd }

theorem Underway.wake (hu : Underway p input m t) (hs : t.step elapsed .wake = some t') :
    Underway p input (⟨t, .wake⟩ :: m) t' := by
  obtain ⟨system, hstep, rfl⟩ := Option.map_eq_some_iff.1 hs
  obtain ⟨task, htask, -⟩ := System.wake_of_step hstep
  have hpoint : t.system.point? run ≠ none := by simp [System.point?, htask]
  obtain ⟨q, hq⟩ := hu.standing.exists_at (.inr hpoint)
  obtain ⟨hsame, hlabour⟩ := hq.same_wake hs
  have hkeeps := hsame.keeps (h := History.of m) hu.standing
  obtain ⟨rfl⟩ := hu.plan
  exact
    { plan := rfl
      reachable := hu.reachable.step hstep
      standing := hkeeps.standing
      fate := hkeeps.fate.trans hu.fate
      pace := by
        have hbefore := hu.pace
        simp only [History.of, List.length_cons, wakes_wake, hlabour]
        omega
      input := hu.input
      tidy := hu.tidy }

theorem Standing.isDone (hst : t.Standing) : t.isDone = false := by
  have hquiet (h : t.loop.isQuiet = true) : t.isDone = false := by
    rw [Terminal.isDone]
    cases hl : t.loop <;> first | rfl | (rw [hl] at h; cases h)
  cases hst with
  | starting hloop => rw [Terminal.isDone, hloop]
  | submitted hloop => exact hquiet (by rw [hloop]; rfl)
  | working hg => exact hquiet hg.quiet
  | paused _ hturn =>
    obtain ⟨hloop, -⟩ | ⟨hloop | ⟨message, hloop⟩, -⟩ := hturn <;> rw [Terminal.isDone, hloop]
  | ended _ _ h => exact hquiet h

theorem Closes.isDone (hc : t.Closes t' h) : t'.isDone = true := by
  obtain ⟨q, result, -, -, -, hc⟩ := hc
  cases hc <;> rfl

/-- **Until the loop is done everything is under way, and the last step has been that of a loop that
closes the dialogue.** -/
theorem Trail.cases (ht : Trail p input m t) : Underway p input m t ∨
    ∃ m₀ t₀, m = ⟨t₀, .go .loop⟩ :: m₀ ∧ Underway p input m₀ t₀ ∧ History.of m = History.of m₀ ∧
      t₀.Closes t (History.of m₀) := by
  induction ht with
  | nil => exact .inl (underway_initial p input)
  | @cons m t t' tick elapsed ht hd hs ih =>
    obtain hu | ⟨_, _, -, -, -, hc⟩ := ih
    · cases tick with
      | wake => exact .inl (hu.wake hs)
      | go side =>
        cases side with
        | worker =>
          have hk := hu.standing.kept_worker (h := History.of m) hs
          exact .inl (hu.step hk.standing.isDone hs hk)
        | loop =>
          obtain hk | ⟨hnext, hc⟩ := hu.standing.kept_loop (h := History.of m) hs
          · exact .inl (hu.step hk.standing.isDone hs hk)
          · exact .inr ⟨m, t, rfl, hu, hnext, hc⟩
    · cases hd.symm.trans hc.isDone

end Terminal

end RunControl
