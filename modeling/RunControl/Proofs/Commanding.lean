import RunControl.Proofs.Standing

/-!
# The command loop takes its turn

While the program is paused, the loop shows the line, reads commands, and resumes or interrupts the
run. When the run is over, it receives the result or lets go.

* `Terminal.Paused.goes`: a pause that is resumed or interrupted is over;
* `Terminal.Closes`: how the loop is done;
* **`Terminal.Standing.kept_loop`**: every step of the loop but the last keeps the two sides in
  order, and the last one ends the dialogue.
-/

namespace RunControl

theorem System.act_resume {κ : Type} {s : System κ} {thread : Thread} {mode : DebugMode}
    {c : Control} (h : s.control.resume mode = some c) :
    s.act thread (.resume mode) = { s with control := c }.promise thread .notify := by
  simp only [System.act, h]

theorem System.act_interrupt {κ : Type} {s : System κ} {thread : Thread} {c : Control}
    (h : s.control.interrupt = some c) :
    s.act thread .interrupt = { s with control := c }.promise thread .notify := by
  simp only [System.act, h]

namespace Terminal

variable {t t' : Terminal} {h h' : History} {q : Point Body} {hold : Hold Body}

theorem mayAct_loop (hb : t.system.isBusy loopThread = false) :
    t.system.mayAct loopThread = true := by
  rw [loopThread] at hb ⊢
  simp [System.mayAct, hb]

/-! ## What is shown -/

theorem foldl_say (texts : List String) (t : Terminal) :
    texts.foldl say t =
      { t with shown := (texts.map (Shown.text t.plan.stream)).reverse ++ t.shown } := by
  induction texts generalizing t with
  | nil => rfl
  | cons s texts ih => simp [ih, say]

theorem filterMap_text (stream : Stream) (texts : List String) (shown : List Shown) :
    ((texts.map (Shown.text stream)).reverse ++ shown).filterMap Shown.text? =
      texts.reverse ++ shown.filterMap Shown.text? := by
  rw [List.filterMap_append, ← List.map_reverse, List.filterMap_map]
  congr 1
  exact List.filterMap_some

theorem receive_lineHighlighted (t : Terminal) (line : UInt32) :
    t.receive (.lineHighlighted line) = { t with
      shown := .text t.plan.stream TerminalPlan.prompt ::
        (((t.plan.scalarTexts t.system.snapshot).map (Shown.text t.plan.stream)).reverse ++
          .text t.plan.stream (t.plan.pauseText line) :: t.shown)
      loop := .prompting } := by
  simp only [receive, foldl_say, say]

/-! ## The turn of the loop -/

/-- The loop has resumed or interrupted the run. -/
theorem Paused.goes {c : Control} (hp : t.Paused q hold) (hnews : t.news = [])
    (hplan : t'.plan = t.plan) (hevents : t'.events = t.events) (hconsole : t'.console = t.console)
    (hsystem : t'.system = { t.system with control := c }.promise loopThread .notify)
    (hheld : c.isHeld hold.generation = false) (halive : c.alive = true)
    (hquiet : t'.loop.isQuiet = true) (hinterrupted : t'.loop = .receiving ∨ c.interrupted = true) :
    t'.Goes q := by
  have hsole : t'.At q :=
    { tasks := by rw [hsystem, hplan]; exact hp.sole.tasks
      inFlight := by
        intro x hx
        rw [hsystem] at hx
        obtain hx | hx := List.mem_append.1 hx
        · exact hp.sole.inFlight x hx
        · exact .inl (List.mem_singleton.1 hx)
      aborted := by rw [hsystem]; exact hp.sole.aborted }
  refine
    { sole := hsole
      quiet := hquiet
      news := by rw [hsole.news, hevents, ← hp.sole.news, hnews]
      alive := by rw [hsystem]; exact halive
      interrupted := by rw [hsystem]; exact hinterrupted
      working := ?_ }
  have hpauses := hp.pauses
  rw [Working, hsystem, hconsole]
  cases q with
  | telling notice queue after =>
    cases after with
    | hold hold =>
      obtain rfl := Option.some.inj hpauses
      exact ⟨hp.free.members, hp.free.console, hheld⟩
    | _ => cases hpauses
  | holding hold | held hold =>
    obtain rfl := Option.some.inj hpauses
    exact ⟨hp.free.members, hp.free.console, hheld⟩
  | _ => cases hpauses

theorem Paused.kept {c : Control} (hp : t.Paused q hold) (hnews : t.news = [])
    (hplan : t'.plan = t.plan) (hevents : t'.events = t.events) (hconsole : t'.console = t.console)
    (hsystem : t'.system = { t.system with control := c }.promise loopThread .notify)
    (hheld : c.isHeld hold.generation = false) (halive : c.alive = true)
    (hquiet : t'.loop.isQuiet = true) (hinterrupted : t'.loop = .receiving ∨ c.interrupted = true)
    (hdialogue : t'.dialogue h' = t.settled h)
    (hpace : 2 + t'.loop.weight + 100 * h.calls + 8 * t.readers.length <
      t.loop.weight + 100 * h'.calls + 8 * t'.readers.length) : t.Kept t' h h' := by
  have hg := hp.goes hnews hplan hevents hconsole hsystem hheld halive hquiet hinterrupted
  exact
    { plan := hplan
      standing := .working hg
      fate := by
        rw [hg.sole.fate, hp.sole.fate, settled_of_quiet hquiet, hg.news, hplan, hconsole,
          ← hdialogue]
        rfl
      pace := by
        rw [hp.sole.labour, hg.sole.labour, hevents, hconsole, hsystem]
        simp only [System.promise, List.length_append, List.length_singleton]
        omega }

theorem Paused.isRunning (hp : t.Paused q hold) : t.system.control.isRunning = true := by
  simp [Control.isRunning, hp.alive, (Control.isHeld_iff.1 hp.held).2]

theorem interrupt_of_running (hb : t.system.isBusy loopThread = false)
    (ha : t.system.aborted = false) (hrunning : t.system.control.isRunning = true) :
    t.interrupt = some (log { t with
      system := { t.system with
        control := { t.system.control with interrupted := true } }.promise loopThread .notify }
      (interruptRecord t.plan)) := by
  have hc := Control.interrupt_eq_some_iff.2 ⟨hrunning, rfl⟩
  rw [interrupt, stepSystem_act ha (mayAct_loop hb), System.act_interrupt hc, hc]
  rfl

theorem settled_of_prompting (hloop : t.loop = .prompting) (hnews : t.news = []) :
    t.settled h = Dialogue.command t.plan t.input (t.dialogue h) := by
  rw [settled, hnews, hloop]
  rfl

theorem settled_of_failing {message : String} (hloop : t.loop = .failing message)
    (hnews : t.news = []) : t.settled h = (t.dialogue h).interrupt := by
  rw [settled, hnews, hloop]
  rfl

theorem next_of_prompting (hb : t.system.isBusy loopThread = false) (hloop : t.loop = .prompting) :
    h.next t .loop = { h with
      modes := (t.input.head?.bind ConsoleLine.mode?).toList ++ h.modes } := by
  rw [History.next, chosen?, loopReads, hb, hloop]
  rfl

theorem Paused.kept_quit (hp : t.Paused q hold) (hloop : t.loop = .prompting) (hnews : t.news = [])
    (hb : t.system.isBusy loopThread = false)
    (hsettled : t.settled h = ((t.dialogue h).take .loop).interrupt)
    (hs : { (t.takeLine .loop).2 with loop := .receiving }.interrupt = some t') :
    t.Kept t' h h := by
  rw [interrupt_of_running (by exact hb) (by exact hp.sole.aborted) (by exact hp.isRunning)] at hs
  obtain rfl := Option.some.inj hs
  have hinterrupt : (t.dialogue h).control.interrupt = _ :=
    Control.interrupt_eq_some_iff.2 ⟨hp.isRunning, rfl⟩
  refine Kept.log ?_ _
  refine hp.kept hnews rfl rfl rfl rfl (by simp [Control.isHeld]) hp.alive rfl (.inl rfl) ?_ ?_
  · rw [hsettled]
    simp only [Dialogue.interrupt, Dialogue.take, hinterrupt]
    simp only [dialogue, hloop]
    rfl
  · simp only [hloop, takeLine, LoopPoint.weight, List.length_cons]
    omega

theorem Paused.kept_resume {mode : DebugMode} (hp : t.Paused q hold) (hloop : t.loop = .prompting)
    (hnews : t.news = []) (hb : t.system.isBusy loopThread = false)
    (hsettled : t.settled h = ((t.dialogue h).take .loop).resume mode)
    (hs : { (t.takeLine .loop).2 with loop := .receiving }.stepSystem
      (.act loopThread (.resume mode)) = some t') :
    t.Kept t' h { h with modes := mode :: h.modes } := by
  obtain ⟨c, hc⟩ : ∃ c, t.system.control.resume mode = some c :=
    ⟨_, Control.resume_eq_some_iff.2 ⟨hp.isRunning, rfl⟩⟩
  have halive : c.alive = true := by
    obtain ⟨-, rfl⟩ := Control.resume_eq_some_iff.1 hc
    exact hp.alive
  rw [stepSystem_act (by exact hp.sole.aborted) (by exact mayAct_loop hb)] at hs
  obtain rfl := Option.some.inj hs
  refine hp.kept hnews rfl rfl rfl (System.act_resume hc) (Control.isHeld_of_resume hc hp.held)
    halive rfl (.inl rfl) ?_ ?_
  · have hc' : (t.dialogue h).control.resume mode = some c := hc
    rw [hsettled]
    simp only [Dialogue.resume, Dialogue.take, hc', takeLine, System.act_resume hc]
    simp only [dialogue, hloop]
    rfl
  · simp only [hloop, takeLine, LoopPoint.weight, List.length_cons]
    omega

theorem Paused.kept_garbled (hp : t.Paused q hold) (hloop : t.loop = .prompting)
    (hnews : t.news = [])
    (hsettled : t.settled h = ((t.dialogue h).take .loop).fail garbledMessage) :
    t.Kept { (t.takeLine .loop).2 with loop := .failing garbledMessage } h h := by
  have hp' : Paused { (t.takeLine .loop).2 with loop := .failing garbledMessage } q hold :=
    ⟨⟨hp.sole.tasks, hp.sole.inFlight, hp.sole.aborted⟩, hp.pauses, hp.held, hp.alive,
      hp.free.members, hp.free.console⟩
  exact
    { plan := rfl
      standing := .paused hp' (.inr ⟨.inr ⟨_, rfl⟩, hnews⟩)
      fate := by
        rw [hp'.sole.fate, hp.sole.fate, hsettled,
          settled_of_failing (by exact rfl) (by exact hnews)]
        rfl
      pace := by
        rw [hp'.sole.labour, hp.sole.labour]
        simp only [hloop, takeLine, LoopPoint.weight, List.length_cons]
        omega }

theorem Paused.kept_unknown {word : String} (hp : t.Paused q hold) (hloop : t.loop = .prompting)
    (hnews : t.news = [])
    (hsettled : t.settled h = Dialogue.command t.plan t.input.tail
      ((((t.dialogue h).take .loop).say (t.plan.unknownText word)).say TerminalPlan.prompt)) :
    t.Kept (((t.takeLine .loop).2.say (t.plan.unknownText word)).say TerminalPlan.prompt) h h := by
  have hp' : Paused (((t.takeLine .loop).2.say (t.plan.unknownText word)).say TerminalPlan.prompt)
      q hold :=
    ⟨⟨hp.sole.tasks, hp.sole.inFlight, hp.sole.aborted⟩, hp.pauses, hp.held, hp.alive,
      hp.free.members, hp.free.console⟩
  exact
    { plan := rfl
      standing := .paused hp' (.inr ⟨.inl hloop, hnews⟩)
      fate := by
        rw [hp'.sole.fate, hp.sole.fate, hsettled,
          settled_of_prompting (by exact hloop) (by exact hnews)]
        rfl
      pace := by
        rw [hp'.sole.labour, hp.sole.labour]
        simp [takeLine, say] }

theorem Paused.kept_takeCommand (hp : t.Paused q hold) (hloop : t.loop = .prompting)
    (hnews : t.news = []) (hb : t.system.isBusy loopThread = false)
    (hs : t.takeCommand = some t') : t.Kept t' h (h.next t .loop) := by
  have hsettled := @settled_of_prompting t h hloop hnews
  have hnext := @next_of_prompting t h hb hloop
  simp only [takeCommand, takeLine] at hs
  cases hinput : t.input with
  | nil =>
    rw [show t.input.head? = none by rw [hinput]; rfl] at hs hnext
    rw [hnext]
    exact hp.kept_quit hloop hnews hb (by rw [hsettled, hinput]; rfl) hs
  | cons line rest =>
    rw [show t.input.head? = some line by rw [hinput]; rfl] at hs hnext
    cases line with
    | garbled =>
      obtain rfl := Option.some.inj hs
      rw [hnext]
      exact hp.kept_garbled hloop hnews (by rw [hsettled, hinput]; rfl)
    | text s =>
      rw [Option.bind_some, ConsoleLine.mode?] at hnext
      rw [hinput, Dialogue.command] at hsettled
      cases hcommand : Command.ofText s with
      | error word =>
        simp only [hcommand] at hs hnext hsettled
        obtain rfl := Option.some.inj hs
        rw [hnext]
        exact hp.kept_unknown hloop hnews (by rw [hsettled, hinput]; rfl)
      | ok command =>
        simp only [hcommand] at hs hnext hsettled
        rw [hnext]
        cases hmode : command.resumeMode with
        | none =>
          simp only [hmode] at hs hsettled
          exact hp.kept_quit hloop hnews hb hsettled hs
        | some mode =>
          simp only [hmode] at hs hsettled
          exact hp.kept_resume hloop hnews hb hsettled hs

theorem Paused.kept_failing {message : String} (hp : t.Paused q hold)
    (hloop : t.loop = .failing message) (hnews : t.news = [])
    (hb : t.system.isBusy loopThread = false)
    (hs : { t with loop := .leaving message }.interrupt = some t') : t.Kept t' h h := by
  rw [interrupt_of_running (by exact hb) (by exact hp.sole.aborted) (by exact hp.isRunning)] at hs
  obtain rfl := Option.some.inj hs
  have hinterrupt : (t.dialogue h).control.interrupt = _ :=
    Control.interrupt_eq_some_iff.2 ⟨hp.isRunning, rfl⟩
  refine Kept.log ?_ _
  refine hp.kept hnews rfl rfl rfl rfl (by simp [Control.isHeld]) hp.alive rfl (.inr rfl) ?_ ?_
  · rw [settled_of_failing hloop hnews]
    simp only [Dialogue.interrupt, hinterrupt]
    simp only [dialogue, hloop]
    rfl
  · simp only [hloop, LoopPoint.weight]
    omega

theorem Paused.kept_receive {rest : List Notice} (hp : t.Paused q hold)
    (hloop : t.loop = .receiving) (hnews : t.news = [.lineHighlighted hold.line])
    (hevents : t.events = .lineHighlighted hold.line :: rest) :
    t.Kept ({ t with events := rest }.receive (.lineHighlighted hold.line)) h h := by
  rw [receive_lineHighlighted]
  have hp' : Paused { t with
      events := rest
      shown := .text t.plan.stream TerminalPlan.prompt ::
        (((t.plan.scalarTexts t.system.snapshot).map (Shown.text t.plan.stream)).reverse ++
          .text t.plan.stream (t.plan.pauseText hold.line) :: t.shown)
      loop := .prompting } q hold :=
    ⟨⟨hp.sole.tasks, hp.sole.inFlight, hp.sole.aborted⟩, hp.pauses, hp.held, hp.alive,
      hp.free.members, hp.free.console⟩
  have hnews' := hnews
  rw [hp.sole.news, hevents] at hnews'
  replace hnews' : (rest ++ q.undelivered).filter Notice.counts = [] := (List.cons.inj hnews').2
  rw [← hp'.sole.news] at hnews'
  have hsettled : t.settled h = (t.dialogue h).pause t.plan hold.line := by
    rw [settled_of_quiet (by rw [hloop]; rfl), hnews]
    rfl
  exact
    { plan := rfl
      standing := .paused hp' (.inr ⟨.inl rfl, hnews'⟩)
      fate := by
        rw [hp'.sole.fate, hp.sole.fate, hsettled, settled_of_prompting (by exact rfl) hnews']
        simp only [Dialogue.pause, Dialogue.foldl_say]
        simp only [dialogue, hloop, texts, List.filterMap_cons, filterMap_text]
        rfl
      pace := by
        rw [hp'.sole.labour, hp.sole.labour]
        simp [hloop, hevents, LoopPoint.weight] }

/-! ## The run is started -/

theorem point?_of_unstarted (htasks : t.system.tasks = []) : t.system.point? run = none := by
  rw [System.point?, htasks]
  rfl

theorem news_of_unstarted (htasks : t.system.tasks = []) (hevents : t.events = []) :
    t.news = [] := by
  rw [news, point?_of_unstarted htasks, hevents]
  rfl

theorem fate_of_unstarted (htasks : t.system.tasks = []) :
    t.fate h = t.plan.begin (t.settled h) := by
  rw [fate, point?_of_unstarted htasks]

theorem labour_of_unstarted (htasks : t.system.tasks = []) :
    t.labour = 2 * t.events.length + 2 * t.system.inFlight.length + t.console.weight +
      t.loop.weight + 110 := by
  rw [labour, point?_of_unstarted htasks]

theorem kept_starting (hloop : t.loop = .starting) (htasks : t.system.tasks = [])
    (hinFlight : t.system.inFlight = []) (hevents : t.events = []) (hf : t.Free)
    (halive : t.system.control.alive = false) (ha : t.system.aborted = false)
    (hs : t.stepSystem (.act loopThread (.start t.plan.args t.plan.mode)) = some t') :
    t.Kept { t' with loop := .receiving } h h := by
  have hstart : t.system.control.start t.plan.mode = _ :=
    Control.start_eq_some_iff.2 ⟨halive, rfl⟩
  rw [stepSystem_act ha (mayAct_loop (by simp [System.isBusy, hinFlight]))] at hs
  simp only [System.act, hstart] at hs
  obtain rfl := Option.some.inj hs
  have hnews := news_of_unstarted htasks hevents
  exact
    { plan := rfl
      standing := .submitted rfl htasks (by rw [System.promise, hinFlight]; rfl) hevents
        ⟨hf.members, hf.console⟩ rfl ha
      fate := by
        have hstart' : (t.dialogue h).control.start t.plan.mode = _ := hstart
        rw [fate_of_unstarted (by exact htasks), fate_of_unstarted htasks,
          settled_of_quiet (by exact rfl), news_of_unstarted (by exact htasks) (by exact hevents),
          settled, hnews]
        simp only [hloop, hstart']
        simp only [dialogue, hloop]
        rfl
      pace := by
        rw [labour_of_unstarted (by exact htasks), labour_of_unstarted htasks]
        simp [hloop, hinFlight, System.promise, LoopPoint.weight]
        omega }

theorem kept_submitted (hloop : t.loop = .receiving) (htasks : t.system.tasks = [])
    (hinFlight : t.system.inFlight = [(loopThread, .submit t.plan.args)]) (hevents : t.events = [])
    (hf : t.Free) (halive : t.system.control.alive = true) (ha : t.system.aborted = false)
    (hs : t.stepSystem (.complete loopThread) = some t') : t.Kept t' h h := by
  have he : t.stepSystem (.complete loopThread) = some { t with
      system := { t.system with inFlight := [], tasks := [⟨t.plan.args, .queued⟩] } } := by
    rw [stepSystem, System.step_complete ha, System.complete, hinFlight]
    simp [System.finishCall, htasks]
  obtain rfl := Option.some.inj (hs.symm.trans he)
  have hnews := news_of_unstarted htasks hevents
  have hg : Goes { t with
      system := { t.system with inFlight := [], tasks := [⟨t.plan.args, .queued⟩] } } .queued :=
    { sole := ⟨rfl, by simp, ha⟩
      quiet := by exact hloop ▸ rfl
      news := by rw [news, hevents]; rfl
      alive := halive
      interrupted := .inl hloop
      working := ⟨hf.members, hf.console⟩ }
  exact
    { plan := rfl
      standing := .working hg
      fate := by
        rw [hg.sole.fate, fate_of_unstarted htasks, settled_of_quiet hg.quiet, hg.news,
          settled_of_quiet (by rw [hloop]; rfl), hnews]
        rfl
      pace := by
        rw [hg.sole.labour, labour_of_unstarted htasks, hinFlight]
        simp [Point.weight, Point.stage, Point.left]
        omega }

/-! ## The last step -/

/-- How the loop is done: it reports the result, or it lets go of a run whose input it cannot
read. -/
inductive Concludes (t : Terminal) (result : RunResult) : Terminal → Prop
  | report {rest : List Notice} : t.loop = .receiving → Concludes t result { t with
      events := rest
      shown := .text .stdout (t.plan.report result) :: t.shown
      loop := .done (.ok result.termination) }
  | leave {message : String} : t.loop = .leaving message →
    Concludes t result { t with loop := .done (.error message) }

/-- The run is over, everything has been said, and the loop is done. -/
def Closes (t t' : Terminal) (h : History) : Prop :=
  ∃ q result, t.At q ∧ q.Retires ∧
    t.fate h = { t.dialogue h with result := some result.timeless } ∧ t.Concludes result t'

theorem fate_of_over {result : RunResult} (hq : t.At q) (ho : q.Retires)
    (hquiet : t.loop.isQuiet = true) (hnews : t.news = [.ended result]) :
    t.fate h = { t.dialogue h with result := some result.timeless } := by
  rw [hq.fate, settled_of_quiet hquiet, hnews]
  cases q with
  | ending result queue => rfl
  | done => rfl
  | _ => exact ho.elim

theorem receive_of_noise {notice : Notice} (hcounts : notice.counts = false) :
    t.receive notice = t := by
  cases notice <;> first | rfl | cases hcounts

/-- The first of the notices that count is the first notice, unless the loop ignores that. -/
theorem At.eq_of_news {notice first : Notice} {rest : List Notice} (hq : t.At q)
    (hevents : t.events = first :: rest) (hnews : t.news = [notice])
    (hcounts : first.counts = true) : first = notice := by
  rw [hq.news, hevents, List.cons_append, List.filter_cons, if_pos hcounts] at hnews
  exact (List.cons.inj hnews).1

theorem Standing.kept_receive {first : Notice} {rest : List Notice} (hst : t.Standing)
    (hloop : t.loop = .receiving) (hevents : t.events = first :: rest) :
    t.Kept ({ t with events := rest }.receive first) h h ∨
      t.Closes ({ t with events := rest }.receive first) h := by
  have hst' := hst
  have hignore {q : Point Body} (hq : t.At q) (hcounts : first.counts = false) :
      t.Kept ({ t with events := rest }.receive first) h h := by
    rw [receive_of_noise hcounts]
    exact (hq.idles_ignore hevents hcounts).kept hst'
  cases hst with
  | starting hloop' => cases hloop.symm.trans hloop'
  | submitted _ _ _ hnone => cases hevents.symm.trans hnone
  | working hg =>
    refine .inl (hignore hg.sole ?_)
    have hnone := hg.events
    rw [hevents, List.filter_cons] at hnone
    by_contra hcounts
    rw [if_pos (by simpa using hcounts)] at hnone
    cases hnone
  | paused hp hturn =>
    refine .inl ?_
    obtain ⟨-, hnews⟩ | ⟨hloop' | ⟨message, hloop'⟩, -⟩ := hturn
    · cases hcounts : first.counts with
      | false => exact hignore hp.sole hcounts
      | true =>
        obtain rfl := hp.sole.eq_of_news hevents hnews hcounts
        exact hp.kept_receive hloop hnews hevents
    · cases hloop.symm.trans hloop'
    · cases hloop.symm.trans hloop'
  | ended hq ho hquiet hnews =>
    cases hcounts : first.counts with
    | false => exact .inl (hignore hq hcounts)
    | true =>
      obtain rfl := hq.eq_of_news hevents hnews hcounts
      exact .inr ⟨_, _, hq, ho, fate_of_over hq ho hquiet hnews, .report hloop⟩

theorem Standing.closes_leaving {message : String} (hst : t.Standing)
    (hloop : t.loop = .leaving message) (halive : t.system.control.alive = false) :
    t.Closes { t with loop := .done (.error message) } h := by
  cases hst with
  | starting hloop' | submitted hloop' => cases hloop.symm.trans hloop'
  | working hg => cases halive.symm.trans hg.alive
  | paused hp => cases halive.symm.trans hp.alive
  | ended hq ho hquiet hnews => exact ⟨_, _, hq, ho, fate_of_over hq ho hquiet hnews, .leave hloop⟩

/-- The loop is at a prompt, or cannot read the input, only while the program is paused. -/
theorem Standing.exists_paused (hst : t.Standing)
    (hloop : t.loop = .prompting ∨ ∃ message, t.loop = .failing message) :
    ∃ q hold, t.Paused q hold ∧ t.news = [] := by
  have hquiet : t.loop.isQuiet = false := by
    obtain hloop | ⟨message, hloop⟩ := hloop <;> rw [hloop] <;> rfl
  cases hst with
  | starting hloop' | submitted hloop' =>
    rw [hloop'] at hloop
    obtain hloop | ⟨message, hloop⟩ := hloop <;> cases hloop
  | working hg => cases hquiet.symm.trans hg.quiet
  | paused hp hturn =>
    obtain ⟨hloop', -⟩ | ⟨-, hnews⟩ := hturn
    · rw [hloop'] at hquiet
      cases hquiet
    · exact ⟨_, _, hp, hnews⟩
  | ended _ _ hquiet' => cases hquiet.symm.trans hquiet'

theorem Standing.of_starting (hst : t.Standing) (hloop : t.loop = .starting) :
    t.system.tasks = [] ∧ t.system.inFlight = [] ∧ t.events = [] ∧ t.Free ∧
      t.system.control.alive = false ∧ t.system.aborted = false := by
  have hquiet : t.loop.isQuiet = false := by rw [hloop]; rfl
  cases hst with
  | starting _ htasks hinFlight hevents hf halive ha =>
    exact ⟨htasks, hinFlight, hevents, hf, halive, ha⟩
  | submitted hloop' => cases hloop.symm.trans hloop'
  | working hg => cases hquiet.symm.trans hg.quiet
  | paused hp hturn =>
    obtain ⟨hloop', -⟩ | ⟨hloop' | ⟨message, hloop'⟩, -⟩ := hturn <;> cases hloop.symm.trans hloop'
  | ended _ _ hquiet' => cases hquiet.symm.trans hquiet'

theorem Standing.kept_complete (hst : t.Standing) (hb : t.system.isBusy loopThread = true)
    (hs : t.stepSystem (.complete loopThread) = some t') : t.Kept t' h h := by
  have hst' := hst
  cases hst with
  | starting hloop htasks hinFlight =>
    rw [System.isBusy, hinFlight] at hb
    cases hb
  | submitted hloop htasks hinFlight hevents hf halive ha =>
    exact kept_submitted hloop htasks hinFlight hevents hf halive ha hs
  | working hg => exact (hg.sole.idles_complete hs).kept hst'
  | paused hp => exact (hp.sole.idles_complete hs).kept hst'
  | ended hq => exact (hq.idles_complete hs).kept hst'

/-- **A step of the loop keeps the two sides in order, or ends the dialogue.** -/
theorem Standing.kept_loop (hst : t.Standing) (hs : t.stepLoop = some t') :
    t.Kept t' h (h.next t .loop) ∨ h.next t .loop = h ∧ t.Closes t' h := by
  have hidle (hreads : t.loopReads = false) : h.next t .loop = h := by
    rw [History.next, chosen?, hreads]
    rfl
  -- by the place of the loop; it reads a command when it prompts, and closes when it leaves or
  -- receives the end
  rw [stepLoop] at hs
  by_cases hb : t.system.isBusy loopThread = true
  · rw [if_pos hb] at hs
    rw [hidle (by rw [loopReads, hb]; rfl)]
    exact .inl (hst.kept_complete hb hs)
  · rw [if_neg hb] at hs
    replace hb : t.system.isBusy loopThread = false := by simpa using hb
    split at hs
    · next hloop =>
      rw [hidle (by rw [loopReads, hloop]; simp)]
      obtain ⟨next, hnext, rfl⟩ := Option.map_eq_some_iff.1 hs
      obtain ⟨htasks, hinFlight, hevents, hf, halive, ha⟩ := hst.of_starting hloop
      exact .inl ((kept_starting hloop htasks hinFlight hevents hf halive ha hnext).log _)
    · next hloop =>
      have hnext := hidle (by rw [loopReads, hloop]; simp)
      rw [hnext]
      split at hs
      · cases hs
      · next first rest hevents =>
        obtain rfl := Option.some.inj hs
        exact (hst.kept_receive hloop hevents).imp_right fun hcloses => ⟨rfl, hcloses⟩
    · next hloop =>
      obtain ⟨q, hold, hp, hnews⟩ := hst.exists_paused (.inl hloop)
      exact .inl (hp.kept_takeCommand hloop hnews hb hs)
    · next message hloop =>
      rw [hidle (by rw [loopReads, hloop]; simp)]
      obtain ⟨q, hold, hp, hnews⟩ := hst.exists_paused (.inr ⟨_, hloop⟩)
      exact .inl (hp.kept_failing hloop hnews hb hs)
    · next message hloop =>
      split_ifs at hs with halive
      obtain rfl := Option.some.inj hs
      exact .inr ⟨hidle (by rw [loopReads, hloop]; simp),
        hst.closes_leaving hloop (by simpa using halive)⟩
    · cases hs

end Terminal

end RunControl
