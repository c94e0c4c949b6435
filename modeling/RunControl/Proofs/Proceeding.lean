import RunControl.Proofs.Standing

/-!
# The program goes on

While the program works, every turn of the worker does what has been decided: it leads to the place
from which the rest of the dialogue is the same.
-/

namespace RunControl

theorem Control.isHeld_of_reach (c : Control) (position : Position) (generation : UInt64)
    (h : (c.reach position).2 = .pause generation) :
    (c.reach position).1.isHeld generation = true := by
  simp only [reach] at h ⊢
  split_ifs at h with hi hp
  obtain rfl := PauseDecision.pause.inj h
  exact isHeld_iff.2 ⟨rfl, by simpa using hi⟩

theorem RunResult.timeless_ofOutcome (translators : Translators) (program : ProgramInfo)
    (last : Position) (elapsed : ℕ) (outcome : Except Fault Unit) :
    (ofOutcome translators program last elapsed outcome).map timeless =
      ofOutcome translators program last 0 outcome := by
  cases outcome with
  | ok u => rfl
  | error fault =>
    simp only [ofOutcome]
    cases fault.diagnostic? translators program last with
    | error payload => rfl
    | ok d => cases d <;> rfl

section Conclude

variable {p : TerminalPlan} {d : Dialogue} {elapsed : ℕ} {outcome : Except Fault Unit}

theorem Dialogue.conclude_of_ok {r : RunResult} (h : RunResult.ofOutcome p.setup.translators
      p.setup.info d.control.position elapsed outcome = .ok r) :
    d.conclude p outcome = d.finish r := by
  simp only [conclude]
  rw [← RunResult.timeless_ofOutcome _ _ _ elapsed, h]
  rfl

theorem Dialogue.conclude_of_error {payload : Payload} (h : RunResult.ofOutcome p.setup.translators
      p.setup.info d.control.position elapsed outcome = .error payload) :
    d.conclude p outcome = d.finish (RunResult.ofPanic payload.message d.control.position 0) := by
  simp only [conclude]
  rw [← RunResult.timeless_ofOutcome _ _ _ elapsed, h]
  rfl

end Conclude

namespace Terminal

variable {t t' : Terminal} {h h' : History} {q q' : Point Body} {elapsed : ℕ}

theorem System.inFlight_goto (s : System Body) : (s.goto run q).inFlight = s.inFlight := rfl

theorem At.goto_of {s : System Body} (ht : t.At q) (htasks : s.tasks = t.system.tasks)
    (hinFlight : s.inFlight = t.system.inFlight) (haborted : s.aborted = t.system.aborted) :
    At { t with system := s.goto run q' } q' := by
  rw [goto_sole (htasks.trans ht.tasks)]
  exact ⟨rfl, hinFlight ▸ ht.inFlight, haborted.trans ht.aborted⟩

namespace Goes

theorem fate (hg : t.Goes q) : t.fate h = q.fate t.plan t.console (t.dialogue h) := by
  rw [hg.sole.fate, settled_of_quiet hg.quiet, hg.news]
  rfl

theorem kept (hg : t.Goes q) (ht' : t'.At q') (hplan : t'.plan = t.plan) (hloop : t'.loop = t.loop)
    (hevents : t'.events = t.events) (hnews : q'.undelivered.filter Notice.counts = [])
    (halive : t'.system.control.alive = t.system.control.alive)
    (hinterrupted : t'.system.control.interrupted = t.system.control.interrupted)
    (hworking : t'.Working q')
    (hfate : q'.fate t.plan t'.console (t'.dialogue h') = q.fate t.plan t.console (t.dialogue h))
    (hpace : 2 * t'.system.inFlight.length + t'.console.weight + q'.weight + 100 * h.calls +
        8 * t.readers.length <
      2 * t.system.inFlight.length + t.console.weight + q.weight + 100 * h'.calls +
        8 * t'.readers.length) : t.Kept t' h h' := by
  have hg' : t'.Goes q' :=
    { sole := ht'
      quiet := hloop ▸ hg.quiet
      news := by rw [ht'.news, hevents, List.filter_append, hg.events, hnews]; rfl
      alive := halive.trans hg.alive
      interrupted := by rw [hloop, hinterrupted]; exact hg.interrupted
      working := hworking }
  exact
    { plan := hplan
      standing := .working hg'
      fate := by rw [hg'.fate, hplan, hfate, hg.fate]
      pace := by
        rw [hg.sole.labour, ht'.labour, hevents, hloop]
        omega }

theorem kept_on (hg : t.Goes q) (ht' : t'.At q') (hplan : t'.plan = t.plan)
    (hloop : t'.loop = t.loop) (hevents : t'.events = t.events)
    (hinFlight : t'.system.inFlight = t.system.inFlight) (hconsole : t'.console = t.console)
    (hreaders : t'.readers = t.readers) (hnews : q'.undelivered.filter Notice.counts = [])
    (halive : t'.system.control.alive = t.system.control.alive)
    (hinterrupted : t'.system.control.interrupted = t.system.control.interrupted)
    (hworking : t'.Working q')
    (hfate : q'.fate t.plan t.console (t'.dialogue h) = q.fate t.plan t.console (t.dialogue h))
    (hweight : q'.weight < q.weight) : t.Kept t' h h := by
  refine hg.kept ht' hplan hloop hevents hnews halive hinterrupted hworking
    (hconsole.symm ▸ hfate) ?_
  rw [hinFlight, hconsole, hreaders]
  omega

/-- A move of the worker that changes nothing that the loop could see. -/
theorem kept_goto (hg : t.Goes q) {s : System Body} (htasks : s.tasks = t.system.tasks)
    (hinFlight : s.inFlight = t.system.inFlight) (haborted : s.aborted = t.system.aborted)
    (halive : s.control.alive = t.system.control.alive)
    (hinterrupted : s.control.interrupted = t.system.control.interrupted)
    (hnews : q'.undelivered.filter Notice.counts = [])
    (hworking : Working { t with system := s.goto run q' } q')
    (hfate : q'.fate t.plan t.console (dialogue { t with system := s.goto run q' } h) =
      q.fate t.plan t.console (t.dialogue h))
    (hweight : q'.weight < q.weight) : t.Kept { t with system := s.goto run q' } h h :=
  hg.kept_on (hg.sole.goto_of htasks hinFlight haborted) rfl rfl rfl hinFlight rfl rfl hnews halive
    hinterrupted hworking hfate hweight

/-! ## Beginning and notifying -/

section Turns

variable (hb : t.system.isBusy (.worker run) = false)

include hb

theorem kept_queued (hg : t.Goes .queued) (hs : t.stepAt elapsed .queued = some t') :
    t.Kept t' h h := by
  obtain ⟨next, hnext, rfl⟩ := Option.map_eq_some_iff.1 hs
  obtain ⟨system, hturn, rfl⟩ := hg.sole.stepSystem_eq hb rfl hnext
  obtain rfl := Option.some.inj hturn
  refine Kept.log ?_ _
  exact hg.kept_goto rfl rfl rfl rfl rfl rfl ⟨hg.working.1, hg.working.2, rfl⟩ rfl
    (by simp [Point.weight, Point.stage, AfterNotice.stage, Point.left])

theorem kept_announcing {notice : Notice} {after : AfterNotice Body}
    (hg : t.Goes (.announcing notice after))
    (hs : t.stepAt elapsed (.announcing notice after) = some t') : t.Kept t' h h := by
  obtain ⟨system, hturn, rfl⟩ := hg.sole.stepSystem_eq hb rfl hs
  obtain rfl := Option.some.inj hturn
  obtain ⟨hmembers, hconsole, hsuits⟩ := hg.working
  rw [hmembers]
  have ht' := @At.goto_of t _ (.telling notice [watcher] after) t.system hg.sole rfl rfl rfl
  have hweight : (Point.telling notice [watcher] after).weight <
      (Point.announcing notice after).weight := by
    simp [Point.weight, Point.stage, Point.left]
    omega
  have hnoise (hcounts : notice.counts = false)
      (hworking : t.Working (.telling notice [watcher] after)) :
      t.Kept { t with system := t.system.goto run (.telling notice [watcher] after) }
        h h := by
    refine hg.kept_on ht' rfl rfl rfl rfl rfl rfl ?_ rfl rfl hworking ?_ hweight
    · simp [Point.undelivered, hcounts]
    · have hhear : (t.dialogue h).hear t.plan notice = t.dialogue h := by
        cases notice <;> first | rfl | cases hcounts
      rw [Point.fate, Point.fate, hhear]
      rfl
  cases after with
  | hold hold =>
    -- the turn passes to the loop
    obtain ⟨rfl, hheld⟩ := hsuits
    have hreceiving : t.loop = .receiving :=
      hg.interrupted.resolve_right fun hi => by simp [Control.isHeld, hi] at hheld
    have hnews := ht'.news
    rw [List.filter_append, hg.events] at hnews
    replace hnews := hnews.trans (show _ = [Notice.lineHighlighted hold.line] from rfl)
    exact
      { plan := rfl
        standing := .paused ⟨ht', rfl, hheld, hg.alive, hmembers, hconsole⟩
          (.inl ⟨hreceiving, hnews⟩)
        fate := by
          rw [ht'.fate, hg.fate, settled_of_quiet (by exact hg.quiet), hnews]
          rfl
        pace := by
          rw [hg.sole.labour, ht'.labour]
          simp only [System.inFlight_goto]
          omega }
  | highlight hold => exact hnoise hsuits.1 ⟨hmembers, hconsole, hsuits⟩
  | leaveRead exit =>
    cases exit with
    | answer state => exact hnoise hsuits ⟨hmembers, hconsole, hsuits⟩
    | unwind message => cases hsuits
  | awaitAnswer ask => cases hsuits
  | libraries | proceed state => exact hnoise hsuits ⟨hmembers, hconsole, hsuits⟩

theorem kept_initializing {left : List String} (hg : t.Goes (.initializing left))
    (hs : t.stepAt elapsed (.initializing left) = some t') : t.Kept t' h h := by
  cases left with
  | cons library left => exact hg.working.elim
  | nil =>
    obtain ⟨system, hturn, rfl⟩ := hg.sole.stepSystem_eq hb rfl hs
    obtain rfl := Option.some.inj hturn
    exact hg.kept_goto rfl rfl rfl rfl rfl rfl hg.working rfl
      (by simp [Point.weight, Point.stage, Point.left])

/-! ## Pausing, reading and writing -/

theorem kept_holding {hold : Hold Body} (hg : t.Goes (.holding hold))
    (hs : t.stepAt elapsed (.holding hold) = some t') : t.Kept t' h h := by
  obtain ⟨system, hturn, rfl⟩ := hg.sole.stepSystem_eq hb rfl hs
  obtain ⟨hmembers, hconsole, hheld⟩ := hg.working
  obtain rfl := Option.some.inj
    ((if_neg (show ¬ t.system.control.isHeld hold.generation = true by simp [hheld])).symm.trans
      hturn)
  exact hg.kept_goto rfl rfl rfl rfl rfl rfl ⟨hmembers, hconsole, rfl⟩ rfl
    (by simp [Point.weight, Point.stage, AfterNotice.stage, Point.left])

theorem kept_requesting {ask : Ask Body} (hg : t.Goes (.requesting ask))
    (hs : t.stepAt elapsed (.requesting ask) = some t') : t.Kept t' h h := by
  obtain ⟨system, hturn, rfl⟩ := hg.sole.stepSystem_eq hb rfl hs
  obtain rfl := Option.some.inj hturn
  obtain ⟨hmembers, hconsole, hread⟩ := hg.working
  refine hg.kept_goto rfl rfl rfl rfl rfl rfl ⟨hmembers, ?_⟩ ?_
    (by simp [Point.weight, Point.stage, Point.left])
  · simp only [hconsole]
    exact ⟨hread, List.mem_append_right _ (List.mem_singleton_self _)⟩
  · simp only [Point.fate, hconsole]
    rfl

/-- The program's call for a value reads a line, settles the read, or returns. -/
theorem kept_asking {ask : Ask Body} {provider : ProviderId} (hg : t.Goes (.asking ask provider))
    (hs : t.stepAt elapsed (.asking ask provider) = some t') : t.Kept t' h h := by
  obtain ⟨hmembers, hask⟩ := hg.working
  cases hconsole : t.console with
  | idle =>
    -- the line is taken from the same input, so what is to come of the dialogue stays the same
    simp only [hconsole] at hask
    simp only [stepAt, stepConsole, hconsole] at hs
    obtain rfl := Option.some.inj hs
    have hkept : t.Kept { (t.takeLine .worker).2 with
        console := .entered (Entered.ofLine ask.type t.input.head?).answer } h h := by
      refine @Goes.kept t _ h h _ (.asking ask provider) hg
        ⟨hg.sole.tasks, hg.sole.inFlight, hg.sole.aborted⟩ rfl rfl rfl rfl rfl rfl
        ⟨hmembers, hask⟩ ?_ ?_
      · simp only [Point.fate, hconsole]
        rfl
      · simp [hconsole, ConsolePoint.weight, takeLine]
        omega
    split
    · exact hkept.log _
    · exact hkept
  | entered answer =>
    -- nobody else settles the read, so the settlement is the answer the dialogue gives itself
    simp only [hconsole] at hask
    simp only [stepAt, stepConsole, hconsole] at hs
    obtain ⟨hread, hhandle⟩ := hask
    have hsettle : t.system.control.settle ask.ticket answer = some { t.system.control with
        read := { t.system.control.read with outcome := .ofAnswer answer } } :=
      Control.settle_eq_some_iff.2 ⟨by simp [hread, ReadState.isOpen], rfl⟩
    have hmay : t.system.mayAct (.worker run) = true := by
      simp [System.mayAct, hb, hg.sole.point?, Point.isOutside]
    have ht₁ : At { t with console := .answered } (.asking ask provider) :=
      ⟨hg.sole.tasks, hg.sole.inFlight, hg.sole.aborted⟩
    rw [stepSystem_act ht₁.aborted (by exact hmay)] at hs
    simp only [System.act, if_pos hhandle, hsettle] at hs
    obtain rfl := Option.some.inj hs
    refine @Goes.kept t _ h h _ (.asking ask provider) hg ⟨ht₁.tasks, ?_, ht₁.aborted⟩ rfl rfl rfl
      rfl rfl rfl ⟨hmembers, ?_⟩ ?_ ?_
    · intro x hx
      obtain hx | hx := List.mem_append.1 hx
      · exact hg.sole.inFlight x hx
      · exact .inr (List.mem_singleton.1 hx)
    · cases answer <;> rfl
    · have hsettle' : (t.dialogue h).control.settle ask.ticket answer = _ := hsettle
      simp only [Point.fate, hconsole, Dialogue.answer, hsettle']
      rfl
    · simp [hconsole, ConsolePoint.weight, System.promise]
      omega
  | answered =>
    simp only [hconsole] at hask
    simp only [stepAt, stepConsole, hconsole] at hs
    have ht₁ : At { t with console := .idle } (.asking ask provider) :=
      ⟨hg.sole.tasks, hg.sole.inFlight, hg.sole.aborted⟩
    obtain ⟨system, hturn, rfl⟩ := ht₁.stepSystem_eq hb rfl hs
    obtain rfl := Option.some.inj hturn
    refine hg.kept (ht₁.goto_of rfl rfl rfl) rfl rfl rfl rfl rfl rfl ⟨hmembers, rfl, hask⟩ ?_ ?_
    · simp only [Point.fate, hconsole]
      rfl
    · simp [hconsole, Point.weight, Point.stage, Point.left, ConsolePoint.weight,
        System.inFlight_goto]

theorem kept_checking {ask : Ask Body} (hg : t.Goes (.checking ask))
    (hs : t.stepAt elapsed (.checking ask) = some t') : t.Kept t' h h := by
  obtain ⟨system, hturn, rfl⟩ := hg.sole.stepSystem_eq hb rfl hs
  obtain ⟨hmembers, hconsole, hdecided⟩ := hg.working
  obtain rfl := Option.some.inj
    ((if_neg (show ¬ t.system.control.awaitsAnswer = true by simp [hdecided])).symm.trans hturn)
  exact hg.kept_on (hg.sole.goto_of rfl rfl rfl) rfl rfl rfl rfl rfl rfl rfl
    (Control.alive_takeAnswer _) (Control.interrupted_takeAnswer _) ⟨hmembers, hconsole⟩ rfl
    (by simp [Point.weight, Point.stage, Point.left])

theorem kept_closingRead {exit : ReadExit Body} (hg : t.Goes (.closingRead exit))
    (hs : t.stepAt elapsed (.closingRead exit) = some t') : t.Kept t' h h := by
  cases exit with
  | unwind message => exact hg.working.elim
  | answer state =>
    obtain ⟨system, hturn, rfl⟩ := hg.sole.stepSystem_eq hb rfl hs
    obtain rfl := Option.some.inj hturn
    obtain ⟨hmembers, hconsole⟩ := hg.working
    exact hg.kept_goto rfl rfl rfl rfl rfl rfl ⟨hmembers, hconsole, rfl⟩ rfl
      (by simp [Point.weight, Point.stage, AfterNotice.stage, Point.left])

theorem kept_writing {value : Value} {sink : SinkId} {next : Except Fault Unit → Body}
    (hg : t.Goes (.writing value sink next))
    (hs : t.stepAt elapsed (.writing value sink next) = some t') : t.Kept t' h h := by
  have ht₁ : At (t.say value.display) (.writing value sink next) :=
    ⟨hg.sole.tasks, hg.sole.inFlight, hg.sole.aborted⟩
  obtain ⟨system, hturn, rfl⟩ := ht₁.stepSystem_eq hb rfl hs
  obtain rfl := Option.some.inj hturn
  exact hg.kept_on (ht₁.goto_of rfl rfl rfl) rfl rfl rfl rfl rfl rfl rfl rfl rfl hg.working rfl
    (by simp [Point.weight, Point.stage, Point.left])

theorem kept_clearing {sink : SinkId} {next : Except Fault Unit → Body}
    (hg : t.Goes (.clearing sink next))
    (hs : t.stepAt elapsed (.clearing sink next) = some t') : t.Kept t' h h := by
  have ht₁ : At (t.say clearScreen) (.clearing sink next) :=
    ⟨hg.sole.tasks, hg.sole.inFlight, hg.sole.aborted⟩
  obtain ⟨system, hturn, rfl⟩ := ht₁.stepSystem_eq hb rfl hs
  obtain rfl := Option.some.inj hturn
  exact hg.kept_on (ht₁.goto_of rfl rfl rfl) rfl rfl rfl rfl rfl rfl rfl rfl rfl hg.working rfl
    (by simp [Point.weight, Point.stage, Point.left])

/-! ## The end of the run -/

theorem kept_unwinding {message : String} (hg : t.Goes (.unwinding message))
    (hs : t.stepAt elapsed (.unwinding message) = some t') : t.Kept t' h h := by
  obtain ⟨system, hturn, rfl⟩ := hg.sole.stepSystem_eq hb rfl hs
  obtain rfl := Option.some.inj hturn
  exact hg.kept_goto rfl rfl rfl rfl rfl rfl hg.working rfl
    (by simp [Point.weight, Point.stage, Point.left, TerminalPlan.setup])

theorem kept_finalizing {left : List String} {outcome : Except Fault Unit}
    (hg : t.Goes (.finalizing left outcome))
    (hs : t.stepAt elapsed (.finalizing left outcome) = some t') : t.Kept t' h h := by
  cases left with
  | cons library left => exact hg.working.elim
  | nil =>
    obtain ⟨system, hturn, rfl⟩ := hg.sole.stepSystem_eq hb rfl hs
    obtain rfl := Option.some.inj hturn
    exact hg.kept_goto rfl rfl rfl rfl rfl rfl hg.working rfl
      (by simp [Point.weight, Point.stage, Point.left])

theorem kept_classifying {outcome : Except Fault Unit} (hg : t.Goes (.classifying outcome))
    (hs : t.stepAt elapsed (.classifying outcome) = some t') : t.Kept t' h h := by
  obtain ⟨system, hturn, rfl⟩ := hg.sole.stepSystem_eq hb rfl hs
  simp only [System.turn, System.advance] at hturn
  split at hturn
  · next r hr =>
    obtain rfl := Option.some.inj hturn
    exact hg.kept_goto rfl rfl rfl rfl rfl rfl hg.working
      (@Dialogue.conclude_of_ok _ (t.dialogue h) _ _ _ hr).symm
      (by simp [Point.weight, Point.stage, Point.left])
  · next payload hpayload =>
    obtain rfl := Option.some.inj hturn
    exact hg.kept_goto rfl rfl rfl rfl rfl rfl hg.working
      (@Dialogue.conclude_of_error _ (t.dialogue h) _ _ _ hpayload).symm
      (by simp [Point.weight, Point.stage, Point.left])

theorem kept_recovering {message : String} (hg : t.Goes (.recovering message))
    (hs : t.stepAt elapsed (.recovering message) = some t') : t.Kept t' h h := by
  obtain ⟨system, hturn, rfl⟩ := hg.sole.stepSystem_eq hb rfl hs
  obtain rfl := Option.some.inj hturn
  exact hg.kept_goto rfl rfl rfl rfl rfl rfl hg.working rfl
    (by simp [Point.weight, Point.stage, Point.left])

theorem kept_draining {result : RunResult} (hg : t.Goes (.draining result))
    (hs : t.stepAt elapsed (.draining result) = some t') : t.Kept t' h h := by
  obtain ⟨system, hturn, rfl⟩ := hg.sole.stepSystem_eq hb rfl hs
  obtain rfl := Option.some.inj hturn
  exact hg.kept_goto rfl rfl rfl rfl rfl rfl hg.working rfl
    (by simp [Point.weight, Point.stage, Point.left])

theorem kept_finishing {result : RunResult} {watchers : List ObserverId}
    (hg : t.Goes (.finishing result watchers))
    (hs : t.stepAt elapsed (.finishing result watchers) = some t') : t.Kept t' h h := by
  obtain ⟨next, hnext, rfl⟩ := Option.map_eq_some_iff.1 hs
  obtain ⟨system, hturn, rfl⟩ := hg.sole.stepSystem_eq hb rfl hnext
  obtain rfl := Option.some.inj hturn
  obtain ⟨rfl, hconsole⟩ := hg.working
  have ht' := @At.goto_of t _ (.ending result [watcher])
    { t.system with control := t.system.control.finish } hg.sole rfl rfl rfl
  have hnews := ht'.news
  rw [List.filter_append, hg.events] at hnews
  replace hnews := hnews.trans (show _ = [Notice.ended result] from rfl)
  refine Kept.log ?_ _
  exact
    { plan := rfl
      standing := .ended ht' (fun _ ho => List.mem_singleton.1 ho) hg.quiet hnews rfl hconsole
      fate := by
        rw [ht'.fate, hg.fate, settled_of_quiet (by exact hg.quiet), hnews]
        rfl
      pace := by
        rw [hg.sole.labour, ht'.labour]
        simp [Point.weight, Point.stage, Point.left, System.inFlight_goto] }

end Turns

/-! ## A call of the body -/

/-- The body makes a call, after which the worker is at a place that is not too far from the end of
the call. -/
theorem kept_call {state : Body} {s : System Body} (hg : t.Goes (.body state))
    (htasks : s.tasks = t.system.tasks) (hinFlight : s.inFlight = t.system.inFlight)
    (haborted : s.aborted = t.system.aborted) (halive : s.control.alive = t.system.control.alive)
    (hinterrupted : s.control.interrupted = t.system.control.interrupted)
    (hnews : q'.undelivered.filter Notice.counts = [])
    (hworking : q'.Works s.roster.members s.control s.handles t.console)
    (hfate : q'.fate t.plan t.console { t.dialogue h with
        control := s.control
        snapshot := s.snapshot
        workingDirectory := s.workingDirectory
        calls := h.calls + 1 } = state.perform t.plan (t.dialogue h))
    (hweight : q'.weight ≤ 136) :
    t.Kept { t with system := s.goto run q' } h { h with calls := h.calls + 1 } := by
  refine hg.kept (hg.sole.goto_of htasks hinFlight haborted) rfl rfl rfl hnews halive hinterrupted
    hworking hfate ?_
  have hbody : (Point.body state).weight = 56 := rfl
  simp only [System.inFlight_goto, hinFlight]
  omega

theorem kept_pausePoint {position : Position} {next : Except Fault Unit → Body}
    (hg : t.Goes (.body (.ask (.pausePoint position next)))) :
    t.Kept { t with
      system := t.system.call t.plan.setup run (.pausePoint position next) } h
      { h with calls := h.calls + 1 } := by
  obtain ⟨hmembers, hconsole⟩ := hg.working
  have hpause := t.system.control.isHeld_of_reach position
  have hreached : (t.system.control.reach position).1 = { t.system.control with position } := rfl
  simp only [System.call]
  generalize hreach : t.system.control.reach position = reached at hpause hreached ⊢
  obtain ⟨control, decision⟩ := reached
  obtain rfl : control = { t.system.control with position } := hreached
  have hreach' : (t.dialogue h).control.reach position = _ := hreach
  cases decision with
  | interrupted | pass =>
    refine hg.kept_call rfl rfl rfl rfl rfl rfl ⟨hmembers, hconsole⟩ ?_
      (by simp [Point.weight, Point.stage, Point.left])
    simp only [Body.perform, hreach']
    rfl
  | pause generation =>
    refine hg.kept_call rfl rfl rfl rfl rfl rfl ⟨hmembers, hconsole, rfl, hpause _ rfl⟩ ?_
      (by simp [Point.weight, Point.stage, AfterNotice.stage, Point.left])
    simp only [Body.perform, hreach']
    rfl

theorem kept_read {type : DataType} {next : Except Fault Value → Body}
    (hg : t.Goes (.body (.ask (.read type next)))) :
    t.Kept { t with system := t.system.call t.plan.setup run (.read type next) } h
      { h with calls := h.calls + 1 } := by
  obtain ⟨hmembers, hconsole⟩ := hg.working
  simp only [System.call]
  cases hopen : t.system.control.openRead with
  | none =>
    have hopen' : (t.dialogue h).control.openRead = none := hopen
    refine hg.kept_call rfl rfl rfl rfl rfl rfl ⟨hmembers, hconsole⟩ ?_
      (by simp [Point.weight, Point.stage, Point.left])
    simp only [Body.perform, hopen']
    rfl
  | some control =>
    have hopen' : (t.dialogue h).control.openRead = some control := hopen
    obtain ⟨-, rfl⟩ := Control.openRead_eq_some_iff.1 hopen
    refine hg.kept_call rfl rfl rfl rfl rfl rfl ⟨hmembers, hconsole, rfl⟩ ?_
      (by simp [Point.weight, Point.stage, Point.left])
    simp only [Body.perform, hopen']
    rfl

theorem kept_change {change : Snapshot.Change} {next : Body}
    (hg : t.Goes (.body (.ask (.change change next)))) :
    t.Kept { t with system := t.system.call t.plan.setup run (.change change next) } h
      { h with calls := h.calls + 1 } := by
  rw [System.call_change]
  cases hover : change.overflows t.system.snapshot with
  | true =>
    have hover' : (change.run (t.dialogue h).snapshot).2 = true := hover
    refine hg.kept_call rfl rfl rfl rfl rfl rfl hg.working ?_
      (by simp [Point.weight, Point.stage, Point.left])
    simp only [Body.perform, hover', if_true]
    rfl
  | false =>
    have hover' : (change.run (t.dialogue h).snapshot).2 = false := hover
    refine hg.kept_call rfl rfl rfl rfl rfl rfl hg.working ?_
      (by simp [Point.weight, Point.stage, Point.left])
    simp only [Body.perform, hover', Bool.false_eq_true, if_false]
    rfl

theorem kept_body {state : Body} (hb : t.system.isBusy (.worker run) = false)
    (hg : t.Goes (.body state)) (hs : t.stepAt elapsed (.body state) = some t') :
    t.Kept t' h { h with calls := h.calls + 1 } := by
  obtain ⟨call⟩ := state
  obtain ⟨system, hturn, rfl⟩ := hg.sole.stepSystem_eq hb rfl hs
  obtain rfl := Option.some.inj hturn
  cases call with
  | pausePoint position next => exact hg.kept_pausePoint
  | read type next => exact hg.kept_read
  | change change next => exact hg.kept_change
  | _ =>
    exact hg.kept_call rfl rfl rfl rfl rfl rfl hg.working rfl
      (by simp [Point.weight, Point.stage, Point.left, TerminalPlan.setup])

theorem kept_stepAt (hb : t.system.isBusy (.worker run) = false) (hg : t.Goes q)
    (hbody : ∀ state, q ≠ .body state) (hs : t.stepAt elapsed q = some t') : t.Kept t' h h := by
  cases q with
  | queued => exact hg.kept_queued hb hs
  | announcing notice after => exact hg.kept_announcing hb hs
  | telling notice queue after =>
    cases queue with
    | nil => exact (hg.sole.idles_told hb hs).kept (.working hg)
    | cons o queue => exact (hg.sole.idles_send hb hs).kept (.working hg)
  | initializing left => exact hg.kept_initializing hb hs
  | body state => exact absurd rfl (hbody state)
  | holding hold => exact hg.kept_holding hb hs
  | requesting ask => exact hg.kept_requesting hb hs
  | asking ask provider => exact hg.kept_asking hb hs
  | checking ask => exact hg.kept_checking hb hs
  | closingRead exit => exact hg.kept_closingRead hb hs
  | writing value sink next => exact hg.kept_writing hb hs
  | clearing sink next => exact hg.kept_clearing hb hs
  | unwinding message => exact hg.kept_unwinding hb hs
  | finalizing left outcome => exact hg.kept_finalizing hb hs
  | classifying outcome => exact hg.kept_classifying hb hs
  | recovering message => exact hg.kept_recovering hb hs
  | draining result => exact hg.kept_draining hb hs
  | finishing result watchers => exact hg.kept_finishing hb hs
  | held hold =>
    obtain ⟨system, hturn, -⟩ := hg.sole.stepSystem_eq hb rfl hs
    cases hturn
  | awaiting ask | awaitingAsleep ask | ending result queue | done => exact hg.working.elim

end Goes

theorem Standing.exists_at (hst : t.Standing)
    (h : t.system.isBusy (.worker run) = true ∨ t.system.point? run ≠ none) : ∃ q, t.At q := by
  cases hst with
  | starting _ htasks hinFlight | submitted _ htasks hinFlight =>
    obtain hb | hp := h
    · rw [System.isBusy, hinFlight] at hb
      cases hb
    · exact absurd (by rw [System.point?, htasks]; rfl) hp
  | working hg => exact ⟨_, hg.sole⟩
  | paused hp => exact ⟨_, hp.sole⟩
  | ended hq => exact ⟨_, hq⟩

theorem Paused.kept_stepAt {hold : Hold Body} (hp : t.Paused q hold) (hst : t.Standing)
    (hb : t.system.isBusy (.worker run) = false) (hs : t.stepAt elapsed q = some t') :
    t.Kept t' h h := by
  have hq := hp.sole
  have hpause := hp.pauses
  cases q with
  | telling notice queue after =>
    cases queue with
    | nil => exact (hq.idles_told hb hs).kept hst
    | cons o queue => exact (hq.idles_send hb hs).kept hst
  | holding hold =>
    obtain rfl := Option.some.inj hpause
    exact (hq.idles_park hb hp.held hs).kept hst
  | held hold =>
    obtain ⟨system, hturn, -⟩ := hq.stepSystem_eq hb rfl hs
    cases hturn
  | _ => cases hpause

theorem At.kept_over (hst : t.Standing) (hq : t.At q) (ho : q.Retires)
    (hb : t.system.isBusy (.worker run) = false) (hs : t.stepAt elapsed q = some t') :
    t.Kept t' h h := by
  cases q with
  | ending result queue =>
    cases queue with
    | nil => exact (hq.idles_retire hb hs).kept hst
    | cons o queue => exact (hq.idles_deliver hb hs).kept hst
  | done =>
    obtain ⟨system, hturn, -⟩ := hq.stepSystem_eq hb rfl hs
    cases hturn
  | _ => exact ho.elim

/-- **A step of the worker keeps the two sides in order.** -/
theorem Standing.kept_worker (hst : t.Standing) (hs : t.stepWorker elapsed = some t') :
    t.Kept t' h (h.next t .worker) := by
  have hidle (hcall : t.isCall .worker = false) : h.next t .worker = h := by
    rw [History.next, hcall]
    rfl
  have hst' := hst
  rw [stepWorker] at hs
  split_ifs at hs with hb
  · -- the second step of a call
    obtain ⟨q, hq⟩ := hst.exists_at (.inl hb)
    rw [hidle (by rw [isCall, hb]; rfl)]
    exact (hq.idles_complete hs).kept hst
  · replace hb : t.system.isBusy (.worker run) = false := by simpa using hb
    have hstep : ∃ q, t.system.point? run = some q ∧ t.stepAt elapsed q = some t' := by
      cases hp : t.system.point? run with
      | none =>
        rw [hp] at hs
        cases hs
      | some q =>
        rw [hp] at hs
        refine ⟨q, rfl, ?_⟩
        split at hs
        · cases hs
        · cases hs
        · next p hpoint =>
            obtain rfl := Option.some.inj hpoint
            exact hs
        · cases hs
    obtain ⟨q, hp, hs⟩ := hstep
    -- the history counts calls of the body only, so it moves on in no other place
    have hcall (hbody : ∀ state, q ≠ .body state) : h.next t .worker = h :=
      hidle (by
        rw [isCall, hb, hp]
        cases q <;> first | rfl | exact absurd rfl (hbody _))
    cases hst with
    | starting _ htasks | submitted _ htasks =>
      rw [System.point?, htasks] at hp
      cases hp
    | working hg =>
      obtain rfl := Option.some.inj (hp.symm.trans hg.sole.point?)
      by_cases hbody : ∃ state, q = .body state
      · obtain ⟨state, rfl⟩ := hbody
        have hnext : h.next t .worker = { h with calls := h.calls + 1 } := by
          rw [History.next, isCall, hb, hp]
          rfl
        rw [hnext]
        exact hg.kept_body hb hs
      · have hbody' : ∀ state, q ≠ .body state := fun state hq => hbody ⟨state, hq⟩
        rw [hcall hbody']
        exact hg.kept_stepAt hb hbody' hs
    | paused hpaused =>
      obtain rfl := Option.some.inj (hp.symm.trans hpaused.sole.point?)
      rw [hcall (by rintro state rfl; cases hpaused.pauses)]
      exact hpaused.kept_stepAt hst' hb hs
    | ended hq ho =>
      obtain rfl := Option.some.inj (hp.symm.trans hq.point?)
      rw [hcall (by rintro state rfl; cases ho)]
      exact hq.kept_over hst' ho hb hs

end Terminal

end RunControl
