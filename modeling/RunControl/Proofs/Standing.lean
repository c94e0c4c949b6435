import RunControl.Proofs.Fate
import RunControl.Proofs.Wakeup

/-!
# Taking turns at a terminal

The worker and the command loop take turns. While the program works, the loop has nothing to do but
to receive notices that it ignores; while the program is paused, the worker waits for the loop, or
will.
-/

namespace RunControl

/-- The loop waits for notices, or for the end of the run. -/
def LoopPoint.isQuiet : LoopPoint → Bool
  | receiving | leaving _ => true
  | _ => false

/-- The pause that a worker waits in, once the loop has been told of it. -/
def Point.pauses? {κ : Type} : Point κ → Option (Hold κ)
  | telling _ _ (.hold hold) | holding hold | held hold => some hold
  | _ => none

/-- The notice is one that comes before the continuation, and a pause that begins has not been
resumed. -/
def AfterNotice.Suits (c : Control) (notice : Notice) : AfterNotice Body → Prop
  | libraries | proceed _ | leaveRead (.answer _) => notice.counts = false
  | highlight h => notice.counts = false ∧ c.isHeld h.generation = true
  | hold h => notice = .lineHighlighted h.line ∧ c.isHeld h.generation = true
  | awaitAnswer _ | leaveRead (.unwind _) => False

/-- What holds at a place where the worker goes on without the loop: it has the observers and the
handles, and the program's call for a value is at `console`. -/
def Point.Works (members : List ObserverId) (c : Control) (handles : List UInt64)
    (console : ConsolePoint) : Point Body → Prop
  | queued | initializing [] | body _ | closingRead (.answer _) | writing _ _ _ | clearing _ _
  | unwinding _ | finalizing [] _ | classifying _ | recovering _ | draining _ =>
    members = [Terminal.watcher] ∧ console = .idle
  | announcing notice after =>
    members = [Terminal.watcher] ∧ console = .idle ∧ after.Suits c notice
  | telling _ _ (.hold hold) =>
    members = [Terminal.watcher] ∧ console = .idle ∧ c.isHeld hold.generation = false
  | telling notice _ after => members = [Terminal.watcher] ∧ console = .idle ∧ after.Suits c notice
  | holding hold | held hold =>
    members = [Terminal.watcher] ∧ console = .idle ∧ c.isHeld hold.generation = false
  | requesting ask =>
    members = [Terminal.watcher] ∧ console = .idle ∧ c.read = ⟨true, false, ask.ticket, .pending⟩
  | asking ask _ => members = [Terminal.watcher] ∧ match console with
    | .answered => c.awaitsAnswer = false
    | _ => c.read = ⟨true, false, ask.ticket, .pending⟩ ∧ ask.ticket ∈ handles
  | checking _ => members = [Terminal.watcher] ∧ console = .idle ∧ c.awaitsAnswer = false
  | finishing _ watchers => watchers = [Terminal.watcher] ∧ console = .idle
  | _ => False

/-- A worker whose run is over tells the loop of the end, or is done. -/
def Point.Retires : Point Body → Prop
  | ending _ queue => ∀ o ∈ queue, o = Terminal.watcher
  | done => True
  | _ => False

theorem Point.works_wake {members : List ObserverId} {c : Control} {handles : List UInt64}
    {console : ConsolePoint} {q : Point Body} (h : q.Works members c handles console) :
    q.wake.Works members c handles console := by
  cases q <;> exact h

namespace Terminal

/-- The loop is the only observer, and the program does not ask for a value. -/
structure Free (t : Terminal) : Prop where
  members : t.system.roster.members = [watcher]
  console : t.console = .idle

/-- The worker goes on from the place without the loop. -/
def Working (t : Terminal) (q : Point Body) : Prop :=
  q.Works t.system.roster.members t.system.control t.system.handles t.console

/-- The one task is at this place, and no start is on its way. -/
structure At (t : Terminal) (q : Point Body) : Prop where
  tasks : t.system.tasks = [⟨t.plan.args, q⟩]
  inFlight : ∀ x ∈ t.system.inFlight, x = (loopThread, .notify) ∨ x = (.worker run, .notify)
  aborted : t.system.aborted = false

/-- The worker is at this place, and the loop has nothing to do; it lets go only of a run that it
has interrupted. -/
structure Goes (t : Terminal) (q : Point Body) : Prop where
  sole : t.At q
  quiet : t.loop.isQuiet = true
  news : t.news = []
  alive : t.system.control.alive = true
  interrupted : t.loop = .receiving ∨ t.system.control.interrupted = true
  working : t.Working q

/-- The worker is at this place, in a pause that nobody has resumed. -/
structure Paused (t : Terminal) (q : Point Body) (hold : Hold Body) : Prop where
  sole : t.At q
  pauses : q.pauses? = some hold
  held : t.system.control.isHeld hold.generation = true
  alive : t.system.control.alive = true
  free : t.Free

/-- Where the two sides of a terminal are, before the loop is done: the program works and the loop
has nothing to do, the program is paused and it is the turn of the loop, or the run is over and the
loop has not received its result. -/
inductive Standing (t : Terminal) : Prop
  | starting : t.loop = .starting → t.system.tasks = [] → t.system.inFlight = [] →
    t.events = [] → t.Free → t.system.control.alive = false → t.system.aborted = false → Standing t
  | submitted : t.loop = .receiving → t.system.tasks = [] →
    t.system.inFlight = [(loopThread, .submit t.plan.args)] → t.events = [] → t.Free →
    t.system.control.alive = true → t.system.aborted = false → Standing t
  | working {q : Point Body} : t.Goes q → Standing t
  | paused {q : Point Body} {hold : Hold Body} : t.Paused q hold →
    (t.loop = .receiving ∧ t.news = [.lineHighlighted hold.line] ∨
      (t.loop = .prompting ∨ ∃ message, t.loop = .failing message) ∧ t.news = []) → Standing t
  | ended {q : Point Body} {result : RunResult} : t.At q → q.Retires →
    t.loop.isQuiet = true → t.news = [.ended result] → t.system.control.alive = false →
    t.console = .idle → Standing t

variable {t t' : Terminal} {h h' : History} {q : Point Body} {elapsed : ℕ}

/-! ## The one task -/

theorem At.point? (ht : t.At q) : t.system.point? run = some q := by
  rw [System.point?, ht.tasks]
  rfl

theorem At.fate (ht : t.At q) : t.fate h = q.fate t.plan t.console (t.settled h) := by
  rw [Terminal.fate, ht.point?]

theorem At.news (ht : t.At q) : t.news = (t.events ++ q.undelivered).filter Notice.counts := by
  rw [Terminal.news, ht.point?]
  rfl

theorem At.labour (ht : t.At q) : t.labour = 2 * t.events.length + 2 * t.system.inFlight.length +
    t.console.weight + t.loop.weight + q.weight := by
  rw [Terminal.labour, ht.point?]

theorem goto_sole {s : System Body} {args : List String} {q' : Point Body}
    (htasks : s.tasks = [⟨args, q⟩]) : s.goto run q' = { s with tasks := [⟨args, q'⟩] } := by
  rw [System.goto, htasks]
  rfl

theorem At.stepSystem_turn {l : Label Body} (ht : t.At q)
    (hb : t.system.isBusy (.worker run) = false) (hl : l.worker? = some run) :
    t.stepSystem l =
      (t.system.turn t.plan.setup ⟨t.plan.args, q⟩ l).map fun system => { t with system } := by
  have hfree : t.system.freeTask? run = some ⟨t.plan.args, q⟩ :=
    System.freeTask?_eq_some_iff.2 ⟨hb, by rw [ht.tasks]; rfl⟩
  rw [stepSystem, System.step_turn hl ht.aborted, hfree, Option.bind_some]

theorem stepSystem_act {thread : Thread} {a : Action} (ha : t.system.aborted = false)
    (hmay : t.system.mayAct thread = true) :
    t.stepSystem (.act thread a) = some { t with system := t.system.act thread a } := by
  rw [stepSystem, System.step_act ha, if_pos hmay]
  rfl

theorem settled_of_quiet (hloop : t.loop.isQuiet = true) :
    t.settled h = t.news.foldl (Dialogue.hear t.plan) (t.dialogue h) := by
  rw [settled]
  cases hl : t.loop <;> first | rfl | (rw [hl] at hloop; cases hloop)

theorem Goes.events (hg : t.Goes q) : t.events.filter Notice.counts = [] := by
  have hnews := hg.news
  rw [hg.sole.news, List.filter_append] at hnews
  exact (List.append_eq_nil_iff.1 hnews).1

/-! ## What a step keeps -/

/-- A step keeps the two sides in order and decides nothing that has not been decided. -/
structure Keeps (t t' : Terminal) (h h' : History) : Prop where
  plan : t'.plan = t.plan
  standing : t'.Standing
  fate : t'.fate h' = t.fate h

/-- A step of a side keeps both in order, and between two calls and two lines there is only so much
to do. -/
structure Kept (t t' : Terminal) (h h' : History) : Prop extends Keeps t t' h h' where
  pace : t'.labour + 100 * h.calls + 8 * t.readers.length <
    t.labour + 100 * h'.calls + 8 * t'.readers.length

theorem Standing.log (hs : t.Standing) (r : LogRecord) : (t.log r).Standing := by
  cases hs with
  | starting hl ht hi he hf ha hb => exact .starting hl ht hi he ⟨hf.members, hf.console⟩ ha hb
  | submitted hl ht hi he hf ha hb => exact .submitted hl ht hi he ⟨hf.members, hf.console⟩ ha hb
  | working hg =>
    exact .working ⟨⟨hg.sole.tasks, hg.sole.inFlight, hg.sole.aborted⟩, hg.quiet, hg.news, hg.alive,
      hg.interrupted, hg.working⟩
  | paused hp hl =>
    exact .paused ⟨⟨hp.sole.tasks, hp.sole.inFlight, hp.sole.aborted⟩, hp.pauses, hp.held, hp.alive,
      hp.free.members, hp.free.console⟩ hl
  | ended hq ho hl hn ha hc => exact .ended ⟨hq.tasks, hq.inFlight, hq.aborted⟩ ho hl hn ha hc

theorem Kept.log (hk : t.Kept t' h h') (r : LogRecord) : t.Kept (t'.log r) h h' where
  plan := hk.plan
  standing := hk.standing.log r
  fate := hk.fate
  pace := hk.pace

/-! ## Bookkeeping -/

/-- From `t` to `t'` a notice is sent or ignored, or a sleeper wakes or falls asleep: nothing that
matters. -/
structure Same (t t' : Terminal) (q q' : Point Body) : Prop where
  at_before : t.At q
  at_after : t'.At q'
  plan : t'.plan = t.plan
  loop : t'.loop = t.loop
  console : t'.console = t.console
  dialogue : ∀ h, t'.dialogue h = t.dialogue h
  members : t'.system.roster.members = t.system.roster.members
  news : t'.news = t.news
  fate : ∀ d, q'.fate t.plan t.console d = q.fate t.plan t.console d
  pauses : q'.pauses? = q.pauses?
  retires : q.Retires → q'.Retires
  working : t.Working q → t'.Working q'

/-- Nothing that matters has happened, and there is less to do. -/
structure Idles (t t' : Terminal) (q q' : Point Body) : Prop extends Same t t' q q' where
  labour : t'.labour < t.labour

namespace Same

variable {q' : Point Body}

theorem control (hi : t.Same t' q q') : t'.system.control = t.system.control :=
  congrArg Dialogue.control (hi.dialogue ⟨[], 0⟩)

theorem settled (hi : t.Same t' q q') : t'.settled h = t.settled h := by
  rw [Terminal.settled, hi.news, hi.dialogue, hi.plan, hi.loop, Terminal.settled]

theorem free (hi : t.Same t' q q') (hf : t.Free) : t'.Free :=
  ⟨hi.members.trans hf.members, hi.console.trans hf.console⟩

theorem standing (hi : t.Same t' q q') (hs : t.Standing) : t'.Standing := by
  have hsame {q₁ : Point Body} (hq₁ : t.At q₁) : q₁ = q :=
    Option.some.inj (hq₁.point?.symm.trans hi.at_before.point?)
  have hloop := hi.loop
  cases hs with
  | starting _ htasks | submitted _ htasks =>
    cases htasks.symm.trans hi.at_before.tasks
  | working hg =>
    obtain rfl := hsame hg.sole
    exact .working ⟨hi.at_after, hloop ▸ hg.quiet, hi.news.trans hg.news, hi.control ▸ hg.alive,
      hi.control ▸ hloop ▸ hg.interrupted, hi.working hg.working⟩
  | paused hp hl =>
    obtain rfl := hsame hp.sole
    refine .paused ⟨hi.at_after, hi.pauses.trans hp.pauses, hi.control ▸ hp.held,
      hi.control ▸ hp.alive, hi.free hp.free⟩ ?_
    rw [hloop, hi.news]
    exact hl
  | ended hq ho hl hn ha hc =>
    obtain rfl := hsame hq
    exact .ended hi.at_after (hi.retires ho) (hloop ▸ hl) (hi.news.trans hn) (hi.control ▸ ha)
      (hi.console.trans hc)

theorem keeps (hi : t.Same t' q q') (hs : t.Standing) : t.Keeps t' h h where
  plan := hi.plan
  standing := hi.standing hs
  fate := by
    rw [hi.at_after.fate, hi.settled, hi.plan, hi.console, hi.fate, hi.at_before.fate]

theorem readers (hi : t.Same t' q q') : t'.readers = t.readers :=
  congrArg Dialogue.readers (hi.dialogue ⟨[], 0⟩)

end Same

theorem Idles.kept {q' : Point Body} (hi : t.Idles t' q q') (hs : t.Standing) : t.Kept t' h h where
  toKeeps := hi.keeps hs
  pace := by
    rw [hi.readers]
    have hlabour := hi.labour
    omega

theorem At.same_rouse {inFlight : List (Thread × Pending)} (ht : t.At q)
    (hsub : ∀ x ∈ inFlight, x ∈ t.system.inFlight) :
    t.Same { t with system := { t.system with
      inFlight, tasks := [⟨t.plan.args, q.wake⟩] } } q q.wake := by
  have ht' : At { t with system := { t.system with
      inFlight, tasks := [⟨t.plan.args, q.wake⟩] } } q.wake :=
    ⟨rfl, fun x hx => ht.inFlight x (hsub x hx), ht.aborted⟩
  exact
    { at_before := ht
      at_after := ht'
      plan := rfl
      loop := rfl
      console := rfl
      dialogue := fun _ => rfl
      members := rfl
      news := by rw [ht.news, ht'.news]; cases q <;> rfl
      fate := fun d => by cases q <;> rfl
      pauses := by cases q <;> rfl
      retires := by cases q <;> exact id
      working := Point.works_wake }

/-- A sleeper that wakes up for no reason has one more thing to do: to fall asleep again. -/
theorem At.same_wake (ht : t.At q) (hs : t.stepSystem (.wake run) = some t') :
    t.Same t' q q.wake ∧ t'.labour = t.labour + 1 := by
  obtain ⟨system, hstep, rfl⟩ := Option.map_eq_some_iff.1 hs
  obtain ⟨task, htask, hasleep, rfl⟩ := System.wake_of_step hstep
  obtain rfl : (⟨t.plan.args, q⟩ : Task Body) = task := by
    rw [ht.tasks] at htask
    exact Option.some.inj htask
  rw [goto_sole ht.tasks]
  have hsame := ht.same_rouse (fun _ hx => hx)
  refine ⟨hsame, ?_⟩
  have hweight : q.wake.weight = q.weight + 1 := by
    cases q <;> first | rfl | cases hasleep
  rw [ht.labour, hsame.at_after.labour, hweight]
  rfl

theorem At.complete {thread : Thread} (ht : t.At q)
    (hs : t.stepSystem (.complete thread) = some t') :
    t' = { t with system := { t.system with
      inFlight := t.system.inFlight.filter fun x => x.1 ≠ thread
      tasks := [⟨t.plan.args, q.wake⟩] } } ∧
      t'.system.inFlight.length < t.system.inFlight.length := by
  rw [stepSystem, System.step_complete ht.aborted, System.complete, Option.map_map] at hs
  obtain ⟨⟨u, owed⟩, hx, rfl⟩ := Option.map_eq_some_iff.1 hs
  have hmem := List.mem_of_find?_eq_some hx
  have hkey : decide (u = thread) = true := (List.find?_eq_some_iff_append.1 hx).1
  obtain rfl : owed = .notify := by
    obtain hx | hx := ht.inFlight _ hmem <;> exact congrArg Prod.snd hx
  refine ⟨?_, ?_⟩
  · simp [System.finishCall, ht.tasks]
  · refine List.length_filter_lt_length_iff_exists.2 ⟨_, hmem, ?_⟩
    simpa using hkey

theorem At.idles_complete {thread : Thread} (ht : t.At q)
    (hs : t.stepSystem (.complete thread) = some t') : t.Idles t' q q.wake := by
  obtain ⟨rfl, hlength⟩ := ht.complete hs
  have hsame := ht.same_rouse
    (show ∀ x ∈ t.system.inFlight.filter (fun x => x.1 ≠ thread), x ∈ t.system.inFlight from
      fun x hx => (List.mem_filter.1 hx).1)
  refine ⟨hsame, ?_⟩
  have hweight : q.wake.weight ≤ q.weight + 1 := by
    cases q <;> simp [Point.wake, Point.weight, Point.stage, Point.left]
  rw [ht.labour, hsame.at_after.labour]
  simp only at hlength ⊢
  omega

/-- What the worker does at a place where it neither sleeps nor is within a call. -/
theorem At.stepSystem_eq {l : Label Body} (ht : t.At q) (hb : t.system.isBusy (.worker run) = false)
    (hl : l.worker? = some run) (hs : t.stepSystem l = some t') :
    ∃ system, t.system.turn t.plan.setup ⟨t.plan.args, q⟩ l = some system ∧
      t' = { t with system } := by
  rw [ht.stepSystem_turn hb hl] at hs
  obtain ⟨system, hturn, rfl⟩ := Option.map_eq_some_iff.1 hs
  exact ⟨system, hturn, rfl⟩

theorem At.idles_send {notice : Notice} {o : ObserverId} {queue : List ObserverId}
    {after : AfterNotice Body} (ht : t.At (.telling notice (o :: queue) after))
    (hb : t.system.isBusy (.worker run) = false)
    (hs : t.stepAt elapsed (.telling notice (o :: queue) after) = some t') :
    t.Idles t' (.telling notice (o :: queue) after) (.telling notice queue after) := by
  have ht₁ : At { t with events := t.events ++ [notice] } (.telling notice (o :: queue) after) :=
    ⟨ht.tasks, ht.inFlight, ht.aborted⟩
  obtain ⟨system, hturn, rfl⟩ := ht₁.stepSystem_eq hb rfl hs
  obtain rfl := Option.some.inj hturn
  rw [goto_sole ht.tasks]
  have ht' : At { t with
      events := t.events ++ [notice]
      system := { t.system with tasks := [⟨t.plan.args, .telling notice queue after⟩] } }
      (.telling notice queue after) := ⟨rfl, ht.inFlight, ht.aborted⟩
  exact
    { at_before := ht
      at_after := ht'
      plan := rfl
      loop := rfl
      console := rfl
      dialogue := fun _ => rfl
      members := rfl
      news := by
        rw [ht.news, ht'.news, List.append_assoc]
        rfl
      fate := fun d => rfl
      pauses := by cases after <;> rfl
      retires := False.elim
      working := fun hw => by cases after <;> exact hw
      labour := by
        rw [ht.labour, ht'.labour]
        simp [Point.weight, Point.stage, Point.left]
        omega }

theorem At.idles_goto {q' : Point Body} (ht : t.At q)
    (hnews : q'.undelivered.filter Notice.counts = q.undelivered.filter Notice.counts)
    (hfate : ∀ d, q'.fate t.plan t.console d = q.fate t.plan t.console d)
    (hpauses : q'.pauses? = q.pauses?) (hretires : q.Retires → q'.Retires)
    (hworking : t.Working q → t.Working q') (hweight : q'.weight < q.weight) :
    t.Idles { t with system := t.system.goto run q' } q q' := by
  have ht' : At { t with system := t.system.goto run q' } q' := by
    rw [goto_sole ht.tasks]
    exact ⟨rfl, ht.inFlight, ht.aborted⟩
  exact
    { at_before := ht
      at_after := ht'
      plan := rfl
      loop := rfl
      console := rfl
      dialogue := fun _ => rfl
      members := rfl
      news := by rw [ht.news, ht'.news, List.filter_append, List.filter_append, hnews]
      fate := hfate
      pauses := hpauses
      retires := hretires
      working := hworking
      labour := by
        rw [ht.labour, ht'.labour]
        exact Nat.add_lt_add_left hweight _ }

theorem weight_told (p : TerminalPlan) (notice : Notice) (after : AfterNotice Body) :
    (after.point p.setup).weight < (Point.telling notice [] after).weight := by
  cases after with
  | leaveRead exit =>
    cases exit <;>
      simp [AfterNotice.point, Point.weight, Point.stage, AfterNotice.stage, Point.left]
  | _ =>
    simp [AfterNotice.point, Point.weight, Point.stage, AfterNotice.stage, Point.left,
      TerminalPlan.setup]

theorem At.idles_told {notice : Notice} {after : AfterNotice Body}
    (ht : t.At (.telling notice [] after)) (hb : t.system.isBusy (.worker run) = false)
    (hs : t.stepAt elapsed (.telling notice [] after) = some t') :
    t.Idles t' (.telling notice [] after) (after.point t.plan.setup) := by
  obtain ⟨system, hturn, rfl⟩ := ht.stepSystem_eq hb rfl hs
  obtain rfl := Option.some.inj hturn
  have hweight := weight_told t.plan notice after
  cases after with
  | leaveRead exit =>
    cases exit with
    | answer state =>
      exact ht.idles_goto rfl (fun _ => rfl) rfl False.elim (fun hw => ⟨hw.1, hw.2.1⟩) hweight
    | unwind message =>
      exact ht.idles_goto rfl (fun _ => rfl) rfl False.elim (fun hw => hw.2.2.elim) hweight
  | libraries | proceed state =>
    exact ht.idles_goto rfl (fun _ => rfl) rfl False.elim (fun hw => ⟨hw.1, hw.2.1⟩) hweight
  | highlight h =>
    exact ht.idles_goto rfl (fun _ => rfl) rfl False.elim
      (fun hw => ⟨hw.1, hw.2.1, rfl, hw.2.2.2⟩) hweight
  | hold h =>
    exact ht.idles_goto rfl (fun _ => rfl) rfl False.elim id hweight
  | awaitAnswer ask =>
    exact ht.idles_goto rfl (fun _ => rfl) rfl False.elim (fun hw => hw.2.2) hweight

theorem At.idles_park {hold : Hold Body} (ht : t.At (.holding hold))
    (hb : t.system.isBusy (.worker run) = false)
    (hheld : t.system.control.isHeld hold.generation = true)
    (hs : t.stepAt elapsed (.holding hold) = some t') :
    t.Idles t' (.holding hold) (.held hold) := by
  obtain ⟨system, hturn, rfl⟩ := ht.stepSystem_eq hb rfl hs
  obtain rfl := Option.some.inj ((if_pos hheld).symm.trans hturn)
  exact ht.idles_goto rfl (fun _ => rfl) rfl False.elim id (Nat.lt_succ_self _)

theorem At.idles_deliver {result : RunResult} {o : ObserverId} {queue : List ObserverId}
    (ht : t.At (.ending result (o :: queue))) (hb : t.system.isBusy (.worker run) = false)
    (hs : t.stepAt elapsed (.ending result (o :: queue)) = some t') :
    t.Idles t' (.ending result (o :: queue)) (.ending result queue) := by
  have ht₁ : At { t with events := t.events ++ [.ended result] } (.ending result (o :: queue)) :=
    ⟨ht.tasks, ht.inFlight, ht.aborted⟩
  obtain ⟨system, hturn, rfl⟩ := ht₁.stepSystem_eq hb rfl hs
  obtain rfl := Option.some.inj hturn
  rw [goto_sole ht.tasks]
  have ht' : At { t with
      events := t.events ++ [.ended result]
      system := { t.system with tasks := [⟨t.plan.args, .ending result queue⟩] } }
      (.ending result queue) := ⟨rfl, ht.inFlight, ht.aborted⟩
  exact
    { at_before := ht
      at_after := ht'
      plan := rfl
      loop := rfl
      console := rfl
      dialogue := fun _ => rfl
      members := rfl
      news := by
        rw [ht.news, ht'.news, List.append_assoc]
        rfl
      fate := fun d => rfl
      pauses := rfl
      retires := fun hq o' ho' => hq o' (List.mem_cons_of_mem _ ho')
      working := id
      labour := by
        rw [ht.labour, ht'.labour]
        simp [Point.weight, Point.stage, Point.left]
        omega }

theorem At.idles_retire {result : RunResult} (ht : t.At (.ending result []))
    (hb : t.system.isBusy (.worker run) = false)
    (hs : t.stepAt elapsed (.ending result []) = some t') :
    t.Idles t' (.ending result []) .done := by
  obtain ⟨system, hturn, rfl⟩ := ht.stepSystem_eq hb rfl hs
  obtain rfl := Option.some.inj hturn
  exact ht.idles_goto rfl (fun _ => rfl) rfl (fun _ => trivial) id
    (by simp [Point.weight, Point.stage, Point.left])

theorem At.idles_ignore {notice : Notice} {rest : List Notice} (ht : t.At q)
    (hevents : t.events = notice :: rest) (hcounts : notice.counts = false) :
    t.Idles { t with events := rest } q q := by
  have ht' : At { t with events := rest } q := ⟨ht.tasks, ht.inFlight, ht.aborted⟩
  exact
    { at_before := ht
      at_after := ht'
      plan := rfl
      loop := rfl
      console := rfl
      dialogue := fun _ => rfl
      members := rfl
      news := by rw [ht.news, ht'.news, hevents, List.cons_append, List.filter_cons, hcounts]; rfl
      fate := fun d => rfl
      pauses := rfl
      retires := id
      working := id
      labour := by
        rw [ht.labour, ht'.labour, hevents]
        simp }

end Terminal

end RunControl
