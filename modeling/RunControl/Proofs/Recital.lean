import RunControl.Proofs.Bilingual

/-!
# A program on its own

What a program does as long as nobody stops it on its way: it reports positions, takes the lines of
the input one after the other, writes texts and changes the snapshot. Neither the command loop nor
the control of the run is part of it.

* `Recital`, **`Body.play`**: a program from a call to its outcome;
* `Routine.Leads`: what a piece of a body comes to. Its rules follow the ways in which routines are
  put together;
* **`Body.perform_eq_conclude`**: a dialogue in which the user is not asked for a command is what
  the program does on its own;
* `Body.loop_not_mem_perform`: so is every dialogue with a plan that pauses nowhere;
* **`Terminal.Solo.seen`**: what everyone sees of an execution without pauses.
-/

namespace RunControl

/-- How far a program has come on its own: the last position that it has reported, the lines that
nobody has read, how many times it has read, and what it has written, latest first. -/
structure Recital where
  position : Position
  snapshot : Snapshot
  workingDirectory : String
  input : List ConsoleLine
  reads : ℕ
  texts : List String

/-- What a program gets when it reads the line. -/
def ConsoleLine.reply (type : DataType) (line : Option ConsoleLine) : Except Fault Value :=
  match (Entered.ofLine type line).answer.bind fun v => v.coerce type with
  | some v => .ok v
  | none => .error (Fault.invalidInput type)

namespace Recital

/-- The program takes the next line, if there is one. -/
def take (s : Recital) : Recital := { s with input := s.input.tail, reads := s.reads + 1 }

/-- The program writes a text. -/
def say (s : Recital) (text : String) : Recital := { s with texts := text :: s.texts }

/-- The program changes the snapshot. -/
def change (s : Recital) (c : Snapshot.Change) : Recital :=
  { s with snapshot := c.apply s.snapshot }

/-- The program reports a position. -/
def reach (s : Recital) (position : Position) : Recital := { s with position }

end Recital

/-- What a program does from here on, and its outcome. -/
def Body.play : Body → Recital → Recital × Except Fault Unit
  | .ask call, s => match call with
    | .finish outcome => (s, outcome)
    | .panic payload => (s, .error (.panic payload.message))
    | .think next => next.play s
    | .pausePoint position next => (next (.ok ())).play (s.reach position)
    | .checkInterrupted next => (next (.ok ())).play s
    | .read type next => (next (ConsoleLine.reply type s.input.head?)).play s.take
    | .write value next => (next (.ok ())).play (s.say value.display)
    | .clear next => (next (.ok ())).play (s.say clearScreen)
    | .change change next =>
      let (snapshot, panics) := change.run s.snapshot
      let s := { s with snapshot }
      if panics then (s, .error (.panic Memory.overflowMessage)) else next.play s
    | .query query next => (next (s.snapshot.answer query)).play s
    | .position next => (next s.position).play s
    | .resolve path next => (next (Path.resolve s.workingDirectory path)).play s

/-! ## Routines -/

namespace Routine

variable {α β : Type} {r : Routine Body α} {f : α → Routine Body β} {s s' s'' : Recital}
  {x : Except Fault α} {y : Except Fault β} {a : α}

/-- How a program goes on after a routine that has come to this. -/
def resume (ok : α → Body) (err : Fault → Body) : Except Fault α → Body
  | .ok a => ok a
  | .error f => err f

/-- The routine leads from one point of a recital to another and comes to `x`, whatever follows. -/
def Leads (r : Routine Body α) (s : Recital) (x : Except Fault α) (s' : Recital) : Prop :=
  ∀ ok err, (r ok err).play s = (resume ok err x).play s'

theorem leads_pure (a : α) (s : Recital) : Leads (pure a) s (.ok a) s := fun _ _ => rfl

theorem leads_fail (f : Fault) (s : Recital) : Leads (fail f : Routine Body α) s (.error f) s :=
  fun _ _ => rfl

theorem Leads.bind (hr : Leads r s (.ok a) s') (hf : Leads (f a) s' y s'') :
    Leads (r >>= f) s y s'' := fun ok err => (hr _ err).trans (hf ok err)

theorem Leads.bind_error {e : Fault} (hr : Leads r s (.error e) s') :
    Leads (r >>= f) s (.error e) s' := fun _ err => hr _ err

theorem leads_pausePoint (line column : UInt32) (s : Recital) :
    Leads (pausePoint line column) s (.ok ()) (s.reach ⟨line, column⟩) := fun _ _ => rfl

theorem leads_declareScalar (id : ℕ) (s : Recital) :
    Leads (change (.declareScalar id)) s (.ok ()) (s.change (.declareScalar id)) := fun _ _ => rfl

theorem leads_writeScalar (id : ℕ) (c : Cell) (s : Recital) :
    Leads (change (.writeScalar id c)) s (.ok ()) (s.change (.writeScalar id c)) := fun _ _ => rfl

theorem leads_write (v : Value) (s : Recital) : Leads (write v) s (.ok ()) (s.say v.display) :=
  fun _ _ => rfl

theorem leads_read (type : DataType) (s : Recital) :
    Leads (read type) s (ConsoleLine.reply type s.input.head?) s.take := by
  intro ok err
  simp only [read, lift, Asks.ask, Body.play]
  cases ConsoleLine.reply type s.input.head? <;> rfl

theorem leads_readInteger {n : Int64}
    (h : ConsoleLine.reply .integer s.input.head? = .ok (.integer n)) :
    Leads readInteger s (.ok n) s.take := by
  have hread := leads_read .integer s
  rw [h] at hread
  exact hread.bind (leads_pure n _)

theorem leads_readInteger_error {f : Fault}
    (h : ConsoleLine.reply .integer s.input.head? = .error f) :
    Leads readInteger s (.error f) s.take := by
  have hread := leads_read .integer s
  rw [h] at hread
  exact hread.bind_error

theorem Leads.play_body {x : Except Fault Unit} {r : Routine Body Unit} (hr : Leads r s x s') :
    r.body.play s = (s', x) := by
  refine (hr _ _).trans ?_
  cases x <;> rfl

end Routine

/-! ## In a dialogue -/

namespace Dialogue

variable {p : TerminalPlan} {d : Dialogue} {s : Recital}

/-- The dialogue is where the program has come on its own: nobody has stopped it on its way. -/
structure Recites (d : Dialogue) (s : Recital) : Prop where
  position : d.control.position = s.position
  snapshot : d.snapshot = s.snapshot
  workingDirectory : d.workingDirectory = s.workingDirectory
  input : d.input = s.input
  readers : d.readers = List.replicate s.reads .worker
  texts : d.texts = s.texts
  modes : d.modes = []
  failure : d.failure = none
  interrupted : d.control.interrupted = false

/-- A read that has just been opened is settled and answered by what is entered. -/
theorem enter_eq {c : Control} (hopen : d.control.openRead = some c) (type : DataType) :
    { d with control := c }.enter c.read.ticket type =
      ({ d.take .worker with control := c.closeRead }, ConsoleLine.reply type d.input.head?) := by
  obtain ⟨hinterrupted, rfl⟩ := Control.openRead_eq_some_iff.1 hopen
  simp only [enter, take, answer, Control.settle, ReadState.isOpen, leave, Control.takeAnswer,
    Control.closeRead, ConsoleLine.reply]
  cases (Entered.ofLine type d.input.head?).answer with
  | none => simp [ReadOutcome.ofAnswer, hinterrupted]
  | some v => cases hv : v.coerce type <;> simp [ReadOutcome.ofAnswer, hinterrupted, hv]

theorem Recites.enter {c : Control} (h : d.Recites s) (hopen : d.control.openRead = some c)
    (type : DataType) : ({ d with control := c }.enter c.read.ticket type).1.Recites s.take ∧
      ({ d with control := c }.enter c.read.ticket type).2 =
        ConsoleLine.reply type s.input.head? := by
  rw [enter_eq hopen, h.input]
  obtain ⟨-, rfl⟩ := Control.openRead_eq_some_iff.1 hopen
  exact
    ⟨{ h with
        input := congrArg List.tail h.input
        readers := congrArg (List.cons Side.worker) h.readers }, rfl⟩

theorem Recites.exists_openRead (h : d.Recites s) : ∃ c, d.control.openRead = some c :=
  ⟨_, Control.openRead_eq_some_iff.2 ⟨h.interrupted, rfl⟩⟩

theorem loop_mem_command (lines : List ConsoleLine) (d : Dialogue) :
    .loop ∈ (command p lines d).readers := by
  induction lines generalizing d with
  | nil => exact List.mem_cons_self
  | cons line rest ih =>
    cases line with
    | garbled => exact List.mem_cons_self
    | text s =>
      rw [command]
      cases Command.ofText s with
      | error word => exact ih _
      | ok command => cases command <;> exact List.mem_cons_self

theorem loop_mem_pause (d : Dialogue) (line : UInt32) : .loop ∈ (d.pause p line).readers :=
  loop_mem_command _ _

theorem readers_conclude (d : Dialogue) (outcome : Except Fault Unit) :
    (d.conclude p outcome).readers = d.readers := by
  simp only [conclude]
  split <;> rfl

end Dialogue

variable {p : TerminalPlan}

theorem Body.loop_mem_perform (b : Body) {d : Dialogue} (h : .loop ∈ d.readers) :
    .loop ∈ (b.perform p d).readers := by
  induction b using Body.induct generalizing d with
  | h call ih =>
    cases call with
    | finish outcome | panic payload =>
      simp only [perform, Dialogue.readers_conclude]
      exact h
    | pausePoint position next =>
      simp only [perform]
      split
      · exact ih _ h
      · exact ih _ h
      · exact ih _ (Dialogue.loop_mem_pause _ _)
    | read type next =>
      simp only [perform]
      split
      · exact ih _ h
      · exact ih _ (List.mem_cons_of_mem _ h)
    | think next =>
      simp only [perform]
      exact ih h
    | change _ next =>
      simp only [perform]
      split
      · rw [Dialogue.readers_conclude]
        exact h
      · exact ih h
    | checkInterrupted next | write _ next | clear next | query _ next | position next
    | resolve _ next =>
      simp only [perform]
      exact ih _ h

/-- **As long as the user is not asked for a command, a program does what it does on its own.** The
user is asked at the first pause, so there is none. -/
theorem Body.perform_eq_conclude (b : Body) {d : Dialogue} {s : Recital} (h : d.Recites s)
    (halone : .loop ∉ (b.perform p d).readers) :
    ∃ d' : Dialogue, d'.Recites (b.play s).1 ∧ b.perform p d = d'.conclude p (b.play s).2 := by
  induction b using Body.induct generalizing d s with
  | h call ih =>
    cases call with
    | finish outcome | panic payload => exact ⟨{ d with calls := d.calls + 1 }, { h with }, rfl⟩
    | pausePoint position next =>
      simp only [perform, Control.reach, h.interrupted, Bool.false_eq_true, if_false] at halone ⊢
      split_ifs at halone ⊢ with hpause
      -- at a pause the loop would read a command
      · exact absurd (loop_mem_perform _ (Dialogue.loop_mem_pause _ _)) halone
      · exact ih _ { h with position := rfl, interrupted := rfl } halone
    | read type next =>
      have hcalled : { d with calls := d.calls + 1 }.Recites s := { h with }
      obtain ⟨c, hopen⟩ := h.exists_openRead
      obtain ⟨hrecites, hreply⟩ := hcalled.enter hopen type
      simp only [perform, hopen, hreply] at halone ⊢
      exact ih _ hrecites halone
    | think next =>
      simp only [perform] at halone ⊢
      exact ih { h with } halone
    | change c next =>
      simp only [perform, play, h.snapshot] at halone ⊢
      split at halone
      · next hover =>
        rw [if_pos hover, if_pos hover]
        exact ⟨{ d with calls := d.calls + 1, snapshot := (c.run s.snapshot).1 },
          { h with snapshot := rfl }, rfl⟩
      · next hroom =>
        rw [if_neg hroom, if_neg hroom]
        exact ih { h with snapshot := rfl } halone
    | checkInterrupted next =>
      simp only [perform, Dialogue.verdict, h.interrupted, Bool.false_eq_true, if_false] at halone ⊢
      exact ih _ { h with } halone
    | write v next | clear next =>
      simp only [perform] at halone ⊢
      exact ih _ { h with texts := by rw [Dialogue.say, h.texts]; rfl } halone
    | query q next =>
      simp only [perform, h.snapshot] at halone ⊢
      exact ih _ { h with snapshot := rfl } halone
    | position next =>
      simp only [perform, h.position] at halone ⊢
      exact ih _ { h with } halone
    | resolve path next =>
      simp only [perform, h.workingDirectory] at halone ⊢
      exact ih _ { h with workingDirectory := rfl } halone

/-- With a plan that pauses nowhere the user is not asked for a command. -/
theorem Body.loop_not_mem_perform (b : Body) {d : Dialogue}
    (hpass : ∀ line, d.control.canPause line = false) (h : .loop ∉ d.readers) :
    .loop ∉ (b.perform p d).readers := by
  induction b using Body.induct generalizing d with
  | h call ih =>
    cases call with
    | finish outcome | panic payload =>
      simp only [perform, Dialogue.readers_conclude]
      exact h
    | pausePoint position next =>
      simp only [perform, Control.reach]
      split_ifs
      · exact ih _ hpass h
      · next hpause => cases (hpass position.line).symm.trans hpause
      · exact ih _ hpass h
    | read type next =>
      simp only [perform]
      split
      · exact ih _ hpass h
      · next c hopen =>
        have henter := Dialogue.enter_eq (d := { d with calls := d.calls + 1 }) hopen type
        obtain ⟨-, rfl⟩ := Control.openRead_eq_some_iff.1 hopen
        simp only [henter]
        refine ih _ hpass ?_
        simpa [Dialogue.take] using h
    | think next =>
      simp only [perform]
      exact ih hpass h
    | change _ next =>
      simp only [perform]
      split
      · rw [Dialogue.readers_conclude]
        exact h
      · exact ih hpass h
    | checkInterrupted next | write _ next | clear next | query _ next | position next
    | resolve _ next =>
      simp only [perform]
      exact ih _ hpass h

namespace TerminalPlan

/-- The body of the demo. -/
def body (p : TerminalPlan) : Body := (p.demo.routine p.args).body

/-- Before the demo begins. -/
def recital (p : TerminalPlan) (input : List ConsoleLine) : Recital :=
  { position := Position.unknown
    snapshot := ((Snapshot.Change.configure p.demo.layout.1 p.demo.layout.2.1
      p.demo.layout.2.2).apply Snapshot.empty).reset
    workingDirectory := p.workingDirectory
    input
    reads := 0
    texts := [] }

/-- The mode and the breakpoints of the plan pause at no line. -/
def PausesNowhere (p : TerminalPlan) : Prop := ∀ line,
  ((Breakpoints.none p.demo.info.lineCount).activate p.breakpoints).shouldPause p.mode line = false

theorem exists_recites (p : TerminalPlan) (input : List ConsoleLine) : ∃ d : Dialogue,
    p.dialogue input = p.body.perform p d ∧
      d.Recites (p.recital input) ∧ (p.PausesNowhere → ∀ line, d.control.canPause line = false) :=
  ⟨_, rfl, ⟨rfl, rfl, rfl, rfl, rfl, rfl, rfl, rfl, rfl⟩, fun h => h⟩

end TerminalPlan

/-! ## At a terminal -/

namespace Terminal

variable {input : List ConsoleLine} {m : List Move} {t : Terminal} {s : Recital}
  {outcome : Except Fault Unit} {r : RunResult}

/-- The worker has nowhere been in a pause that nobody has ended. -/
def Unpaused (m : List Move) : Prop := ∀ x ∈ m, ∀ q hold, x.state.system.point? run = some q →
  q.pauses? = some hold → x.state.system.control.isHeld hold.generation = false

/-- An execution to its end in which the user has not been asked for a command. -/
structure Solo (p : TerminalPlan) (input : List ConsoleLine) (m : List Move) (t : Terminal) :
    Prop where
  trail : Trail p input m t
  isDone : t.isDone = true
  alone : .loop ∉ t.readers

/-- What everyone sees of an execution to its end, when the program has written the texts and has
read so many times: the result is this one, less the time. -/
structure Seen (p : TerminalPlan) (input : List ConsoleLine) (t : Terminal) (r : RunResult)
    (texts : List String) (reads : ℕ) : Prop where
  outcome : ∃ result : RunResult, result.timeless = r ∧
    t.loop = .done (.ok result.termination) ∧
    (∀ stream, (Application.endOf t).output stream =
      (if p.stream = stream then texts else []) ++
        if Stream.stdout = stream then [p.report result] else []) ∧
    (Application.endOf t).status = result.termination.exitCode
  readers : t.readers = List.replicate reads .worker
  input : t.input = input.drop reads

/-- In a run without pauses the user is not asked for a command: a command is read only in a
pause. -/
theorem Trail.loop_not_mem (ht : Trail p input m t) (hm : Unpaused m) : .loop ∉ t.readers := by
  induction ht with
  | nil =>
    obtain ⟨shown, he, -⟩ := exists_initial p input
    rw [he]
    exact List.not_mem_nil
  | @cons m t t' tick elapsed ht hd hs ih =>
    have hbefore := ih fun x hx => hm x (List.mem_cons_of_mem _ hx)
    cases tick with
    | wake =>
      rw [(uncontested p input).woken ht hs]
      exact hbefore
    | go side =>
      rw [(uncontested p input).taken ht hs]
      split_ifs with hreads
      · cases side with
        | worker => simpa using hbefore
        | loop =>
          obtain ⟨q, hold, hq, hpauses, hheld⟩ := (uncontested p input).paused ht hreads
          cases (hm _ List.mem_cons_self q hold hq hpauses).symm.trans hheld
      · exact hbefore

theorem Trail.solo_of_pausesNowhere (hp : p.PausesNowhere) (ht : Trail p input m t)
    (hd : t.isDone = true) : Solo p input m t := by
  refine ⟨ht, hd, ?_⟩
  obtain ⟨d, hdialogue, hrecites, hpass⟩ := p.exists_recites input
  rw [(ht.concluded hd).readers, hdialogue]
  refine Body.loop_not_mem_perform _ (hpass hp) ?_
  rw [hrecites.readers]
  exact List.not_mem_nil

theorem Trail.system_eq (ht : Trail p input m t) (hd : t.isDone = true) :
    t.system.control = (p.dialogue input).control ∧
      t.system.snapshot = (p.dialogue input).snapshot := by
  obtain hu | ⟨m₀, t₀, -, hu, -, q, result, -, -, hfate, hconcludes⟩ := ht.cases
  · cases hd.symm.trans hu.standing.isDone
  · rw [← hu.fate, hfate]
    cases hconcludes <;> exact ⟨rfl, rfl⟩

/-- **An execution in which the user is not asked for a command is what the demo does on its
own.** -/
theorem Solo.seen (hs : Solo p input m t) (hplay : p.body.play (p.recital input) = (s, outcome))
    (hresult : RunResult.ofOutcome Translators.standard p.demo.info s.position 0 outcome = .ok r) :
    Seen p input t r.timeless s.texts.reverse s.reads ∧ t.system.snapshot = s.snapshot := by
  have hconcluded := hs.trail.concluded hs.isDone
  have hsnapshot := (hs.trail.system_eq hs.isDone).2
  obtain ⟨d, hdialogue, hrecites, -⟩ := p.exists_recites input
  have halone : .loop ∉ (p.body.perform p d).readers := by
    rw [← hdialogue, ← hconcluded.readers]
    exact hs.alone
  obtain ⟨d', hd', hperform⟩ := Body.perform_eq_conclude _ hrecites halone
  rw [hplay] at hd' hperform
  have hlast : RunResult.ofOutcome p.setup.translators p.setup.info d'.control.position 0 outcome =
      .ok r := by
    rw [hd'.position]
    exact hresult
  rw [hdialogue, hperform, Dialogue.conclude] at hconcluded hsnapshot
  simp only [hlast] at hconcluded hsnapshot
  have hreaders : t.readers = List.replicate s.reads .worker := hconcluded.readers.trans hd'.readers
  refine ⟨⟨?_, hreaders, ?_⟩, ?_⟩
  · obtain ⟨result, hsame, hloop, houtput, hstatus⟩ := hconcluded.outcome
    have hfailure : (d'.finish r).failure = none := hd'.failure
    simp only [hfailure] at hloop hstatus
    refine ⟨result, (Option.some.inj hsame).symm, hloop, fun stream => ?_, hstatus⟩
    rw [houtput, TerminalPlan.output, hfailure, ← hd'.texts]
    rfl
  · rw [hs.trail.input_eq, hreaders, List.length_replicate]
  · rw [hsnapshot]
    exact hd'.snapshot

end Terminal

end RunControl
