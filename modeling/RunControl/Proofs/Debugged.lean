import RunControl.Proofs.Plain
import RunControl.Proofs.SoleWorker

/-!
# Steps of a debugged run

A run that is paused, resumed and watched does what it would do without a debugger. While it is in a
pause or in a read, it counts as being where it will be after that: step by step it then either
stays where it is or does what the run without a debugger does next.

* `Moment.event?`, `Moment.response?`: what the program decides and what its body is answered;
* `Conforms`: the program behaves as a `Conduct` says, and nobody meddles;
* `System.plain`: the state of a run but for debugging;
* **`leads_turn`**: a turn of the worker leaves that alone or is the next step without a debugger;
* `plain_kept`, `leads_act`: so do all other steps.
-/

namespace RunControl

variable {κ : Type} {setup : Setup κ} {conduct : Conduct κ} {s s' s₀ s₁ : System κ}
  {l : Label κ} {run : RunId} {m : List (Moment κ)}

/-! ## What the program decides -/

/-- The step is one of the worker of a run or of code on it. -/
def Label.isOf (run : RunId) (l : Label κ) : Bool :=
  l.worker? = some run || l.caller? = some (.worker run)

/-- What the step says about the code of the program. -/
def Label.decision? : Label κ → Option (Decision κ)
  | .call _ c => some (.call c)
  | .returned _ => some .returned
  | .libraryFailed _ error => some (.libraryFailed error)
  | .sinkFailed _ error => some (.sinkFailed error)
  | .panicked _ payload => some (.panicked payload)
  | .caught _ state => some (.caught state)
  | .advance _ _ => some .uncaught
  | .act _ a => if a.isMaterial then some (.act a) else none
  | _ => none

/-- Code of the program runs on the worker. -/
def Point.program? : Point κ → Option (Place κ)
  | .initializing (library :: left) => some (.initializing (library :: left))
  | .body state => some (.body state)
  | .asking ask provider => some (.asking ask.type ask.next provider)
  | .writing value sink next => some (.writing value sink next)
  | .clearing sink next => some (.clearing sink next)
  | .unwinding message => some (.unwinding message)
  | .finalizing (library :: left) outcome => some (.finalizing (library :: left) outcome)
  | _ => none

/-- What code of the program of a run decides. -/
def Moment.event? (run : RunId) (x : Moment κ) : Option (Event κ) :=
  if x.label.isOf run then
    ((x.state.point? run).bind Point.program?).bind fun place =>
      x.label.decision?.map (Event.mk place)
  else none

/-- What a worker at a place answers its body in a step. -/
def System.response? (s : System κ) : Label κ → Point κ → Option Response
  | .call _ (.pausePoint position _), .body _ => match (s.control.reach position).2 with
    | .interrupted => some (.done (.error .interrupted))
    | .pass => some (.done (.ok ()))
    | .pause _ => none
  | .call _ (.checkInterrupted _), .body _ =>
    some (.done (if s.control.interrupted then .error .interrupted else .ok ()))
  | .call _ (.read _ _), .body _ =>
    if s.control.interrupted then some (.value (.error .interrupted)) else none
  | .call _ (.query query _), .body _ => some (.inspected (s.snapshot.answer query))
  | .call _ (.position _), .body _ => some (.position s.control.position)
  | .call _ (.resolve path _), .body _ => some (.path (Path.resolve s.workingDirectory path))
  | .advance _ _, .holding hold =>
    if s.control.isHeld hold.generation then none
    else some (.done (if s.control.interrupted then .error .interrupted else .ok ()))
  | .advance _ _, .checking ask | .advance _ _, .awaiting ask =>
    if s.control.awaitsAnswer then none else some (.value (s.control.takeAnswer ask.type).2)
  | .returned _, .writing _ _ _ | .returned _, .clearing _ _ => some (.done (.ok ()))
  | .sinkFailed _ error, .writing _ _ _ => some (.done (.error (Fault.ofWriteError error)))
  | .sinkFailed _ _, .clearing _ _ => some (.done (.error Fault.ofClearError))
  | _, _ => none

/-- What the body of a run is answered. -/
def Moment.response? (run : RunId) (x : Moment κ) : Option Response :=
  if x.label.worker? = some run then
    (x.state.point? run).bind fun q => x.state.response? x.label q
  else none

/-- What the code of the program of a run has decided, the latest first. -/
def past (run : RunId) (m : List (Moment κ)) : List (Event κ) := m.filterMap (Moment.event? run)

/-- What the body of a run has been answered, the latest first. -/
def responses (run : RunId) (m : List (Moment κ)) : List Response :=
  m.filterMap (Moment.response? run)

/-- The worker tells an observer something. -/
def Point.isTelling : Point κ → Bool
  | .telling _ _ _ => true
  | _ => false

/-- The step is a call that changes the snapshot or a setting. -/
def Label.isMaterial : Label κ → Bool
  | .act _ a => a.isMaterial
  | _ => false

/-- Nobody meddles with the run: no interrupt is accepted, no resume while a read is open, the read
is settled as the conduct says, no observer panics, and only code of the program changes the
snapshot or a setting. -/
structure Moment.Benign (conduct : Conduct κ) (run : RunId) (before : List (Event κ))
    (x : Moment κ) : Prop where
  interrupts : x.interrupts = false
  resumes : x.resumes = true → x.state.control.read.awaiting = false
  settles : x.state.control.read.awaiting = true →
    ∀ answer ∈ x.settlement? x.state.control.read.ticket, answer = conduct.reply (asked before)
  observers : x.isPanic run = true → (x.state.point? run).any Point.isTelling = false
  acts : x.label.isMaterial = true → (x.event? run).isSome = true

instance (before : List (Event κ)) (x : Moment κ) : Decidable (x.Benign conduct run before) :=
  decidable_of_iff (_ ∧ _ ∧ _ ∧ _ ∧ _)
    ⟨fun h => ⟨h.1, h.2.1, h.2.2.1, h.2.2.2.1, h.2.2.2.2⟩,
      fun h => ⟨h.interrupts, h.resumes, h.settles, h.observers, h.acts⟩⟩

/-- Nobody meddles with the run in any of the steps. -/
def Undisturbed (conduct : Conduct κ) (run : RunId) : List (Moment κ) → Prop
  | [] => True
  | x :: m => x.Benign conduct run (past run m) ∧ Undisturbed conduct run m

instance decidableUndisturbed : ∀ m, Decidable (Undisturbed conduct run m)
  | [] => inferInstanceAs (Decidable True)
  | x :: m =>
    have := decidableUndisturbed m
    inferInstanceAs (Decidable (x.Benign conduct run (past run m) ∧ Undisturbed conduct run m))

/-- The program of a run behaves as the conduct says, and nobody meddles with the run. -/
structure Conforms (conduct : Conduct κ) (run : RunId) (m : List (Moment κ)) : Prop where
  decides : conduct.replay (past run m) = past run m
  undisturbed : Undisturbed conduct run m

/-! ## The state of a run but for debugging -/

/-- Where the run will be after a notification. -/
def AfterNotice.place (setup : Setup κ) (answer : DataType → Except Fault Value) :
    AfterNotice κ → Place κ
  | .libraries => .initializing setup.libraries
  | .highlight h | .hold h => .body (h.next (.ok ()))
  | .proceed state | .leaveRead (.answer state) => .body state
  | .awaitAnswer ask => .body (ask.next (answer ask.type))
  | .leaveRead (.unwind message) => .unwinding message

/-- Where the run will be after a pause, a notification or a wait; `answer` is the answer to a
read. -/
def Point.place (setup : Setup κ) (answer : DataType → Except Fault Value) (s : System κ) :
    Point κ → Place κ
  | .queued => .initializing setup.libraries
  | .announcing _ after | .telling _ _ after => after.place setup answer
  | .initializing left => .initializing left
  | .body state => .body state
  | .holding hold | .held hold => .body (hold.next (.ok ()))
  | .requesting ask => .asking ask.type ask.next s.input
  | .asking ask provider => .asking ask.type ask.next provider
  | .checking ask | .awaiting ask | .awaitingAsleep ask => .body (ask.next (answer ask.type))
  | .closingRead (.answer state) => .body state
  | .closingRead (.unwind message) => .unwinding message
  | .writing value sink next => .writing value sink next
  | .clearing sink next => .clearing sink next
  | .unwinding message => .unwinding message
  | .finalizing left outcome => .finalizing left outcome
  | .classifying outcome => .finalizing [] outcome
  | .recovering message => .ofResult (RunResult.ofPanic message s.control.position 0)
  | .draining result | .finishing result _ | .ending result _ => .ofResult result
  | .done => .ended .normal none

/-- What the body is going to be answered after a notification. -/
def AfterNotice.due (answer : DataType → Except Fault Value) : AfterNotice κ → List Response
  | .highlight _ | .hold _ => [.done (.ok ())]
  | .awaitAnswer ask => [.value (answer ask.type)]
  | _ => []

/-- What the body is going to be answered after a pause, a notification or a wait. -/
def Point.due (answer : DataType → Except Fault Value) : Point κ → List Response
  | .announcing _ after | .telling _ _ after => after.due answer
  | .holding _ | .held _ => [.done (.ok ())]
  | .checking ask | .awaiting ask | .awaitingAsleep ask => [.value (answer ask.type)]
  | _ => []

/-- The state of a run whose worker is at a place. -/
def System.plainAt (setup : Setup κ) (conduct : Conduct κ) (s : System κ) (q : Point κ)
    (past : List (Event κ)) (responses : List Response) : Plain κ where
  place := q.place setup (conduct.answer past) s
  position := s.control.position
  snapshot := s.snapshot
  input := s.input
  output := s.output
  workingDirectory := s.workingDirectory
  responses := q.due (conduct.answer past) ++ responses
  past := past

/-- The state of a run but for debugging, after the steps `m`. -/
def System.plain (setup : Setup κ) (conduct : Conduct κ) (run : RunId) (m : List (Moment κ))
    (s : System κ) : Plain κ :=
  s.plainAt setup conduct ((s.point? run).getD .queued) (past run m) (responses run m)

/-! ## A turn of the worker -/

section Turns

variable {args : List String} {entry : κ} {q q' : Point κ} {P : List (Event κ)}
  {R : List Response}

/-- From the one state to the other a run stays where it is, or does what it does next without a
debugger. -/
def Plain.Leads (setup : Setup κ) (conduct : Conduct κ) (entry : κ) (p p' : Plain κ) : Prop :=
  p' = p ∨ p.next setup conduct entry = some p'

/-- At the place `q` the code of the program decides as the conduct says. -/
def Conduct.Decides (conduct : Conduct κ) (P : List (Event κ)) (l : Label κ) (q : Point κ) : Prop :=
  ∀ place decision, q.program? = some place → l.decision? = some decision →
    conduct.decide P place = decision

theorem past_cons (x : Moment κ) (m : List (Moment κ)) :
    past run (x :: m) = (x.event? run).toList ++ past run m := by
  unfold past
  cases h : x.event? run <;> simp [h]

theorem responses_cons (x : Moment κ) (m : List (Moment κ)) :
    responses run (x :: m) = (x.response? run).toList ++ responses run m := by
  unfold responses
  cases h : x.response? run <;> simp [h]

theorem plain_eq (h : s.point? run = some q) : s.plain setup conduct run m =
    s.plainAt setup conduct q (past run m) (responses run m) := by
  rw [System.plain, h, Option.getD_some]

theorem Moment.event?_eq (hof : l.isOf run = true) (hq : s.point? run = some q) :
    (Moment.mk s l).event? run =
      q.program?.bind fun place => l.decision?.map (Event.mk place) := by
  simp [Moment.event?, hof, hq]

theorem decides_of_event (hof : l.isOf run = true) (hq : s.point? run = some q)
    (hd : ∀ e, (Moment.mk s l).event? run = some e → e.decision = conduct.decide P e.place) :
    conduct.Decides P l q := by
  intro place decision hplace hdecision
  refine (hd ⟨place, decision⟩ ?_).symm
  rw [Moment.event?_eq hof hq, hplace, hdecision]
  rfl

/-- Where code of the program runs, the run without a debugger does what that code decides. -/
theorem Conduct.Decides.next {place : Place κ} {decision : Decision κ}
    (hdecides : conduct.Decides P l q) (hq : q.program? = some place)
    (hd : l.decision? = some decision) :
    (s.plainAt setup conduct q P R).next setup conduct entry =
      ({ s.plainAt setup conduct q P R with past := ⟨place, decision⟩ :: P } : Plain κ).follow
        setup conduct place decision := by
  obtain rfl := hdecides place decision hq hd
  cases q with
  | initializing left =>
    cases left with
    | nil => cases hq
    | cons library left =>
      obtain rfl := Option.some.inj hq
      rfl
  | finalizing left outcome =>
    cases left with
    | nil => cases hq
    | cons library left =>
      obtain rfl := Option.some.inj hq
      rfl
  | body state | asking ask provider | writing value sink next | clearing sink next
  | unwinding message =>
    obtain rfl := Option.some.inj hq
    rfl
  | _ => cases hq

theorem plainAt_after (after : AfterNotice κ) (notice : Notice) (queue : List ObserverId) :
    s.plainAt setup conduct (after.point setup) P R =
      s.plainAt setup conduct (.telling notice queue after) P R := by
  cases after with
  | leaveRead exit => cases exit <;> rfl
  | _ => rfl

theorem plainAt_take (ask : Ask κ)
    (hanswer : (s.control.takeAnswer ask.type).2 = conduct.answer P ask.type) :
    ({ s with control := (s.control.takeAnswer ask.type).1 } : System κ).plainAt setup conduct
        (.closingRead (.answer (ask.next (s.control.takeAnswer ask.type).2))) P
        (.value (s.control.takeAnswer ask.type).2 :: R) =
      s.plainAt setup conduct (.awaiting ask) P R := by
  have hposition := Control.position_takeAnswer (c := s.control) ask.type
  rw [hanswer]
  exact congrArg (fun position => { s.plainAt setup conduct (.awaiting ask) P R with position })
    hposition

theorem classify_eq (outcome : Except Fault Unit) (elapsed : ℕ) (p : Plain κ) :
    p.classify setup outcome =
      match RunResult.ofOutcome setup.translators setup.info p.position elapsed outcome with
      | .ok result => .ofResult result
      | .error payload => .ofResult (RunResult.ofPanic payload.message p.position elapsed) := by
  have hclock := Shift.still.ofOutcome_clock setup p.position elapsed outcome
  unfold Plain.classify
  rw [show Shift.still.clock elapsed = 0 from rfl] at hclock
  rw [hclock]
  cases RunResult.ofOutcome setup.translators setup.info p.position elapsed outcome <;> rfl

/-- Where an outcome is to be classified, the run without a debugger does so next. -/
theorem next_classifying (outcome : Except Fault Unit) (elapsed : ℕ) :
    (s.plainAt setup conduct (.classifying outcome) P R).next setup conduct entry =
      some ((s.plainAt setup conduct (.classifying outcome) P R).goto
        (match RunResult.ofOutcome setup.translators setup.info s.control.position elapsed
            outcome with
          | .ok result => .ofResult result
          | .error payload =>
            .ofResult (RunResult.ofPanic payload.message s.control.position elapsed))) :=
  congrArg (fun place => some ((s.plainAt setup conduct (.classifying outcome) P R).goto place))
    (classify_eq outcome elapsed _)

theorem leads_called {state : κ} {c : Call κ} (h : s.Called setup c s₁ q')
    (hi : s.control.interrupted = false)
    (hdecides : conduct.Decides P (.call run c) (.body state)) :
    (s.plainAt setup conduct (.body state) P R).Leads setup conduct entry
      (s₁.plainAt setup conduct q' (⟨.body state, .call c⟩ :: P)
        ((s.response? (.call run c) (.body state)).toList ++ R)) := by
  have hnext {setup : Setup κ} {entry : κ} {R : List Response} :
      (s.plainAt setup conduct (.body state) P R).next setup conduct entry =
        some (({ s.plainAt setup conduct (.body state) P R with
          past := ⟨.body state, .call c⟩ :: P } : Plain κ).call setup c) := hdecides.next rfl rfl
  -- a position is answered the same, at once or after a pause
  cases h with
  | report hpass =>
    have hpass := hpass.resolve_left (by simp [hi])
    simp only [System.response?, Control.reach, hi, hpass]
    exact .inr hnext
  | pause _ hpause =>
    simp only [System.response?, Control.reach, hi, hpause]
    exact .inr hnext
  | checkInterrupted =>
    simp only [System.response?, hi]
    exact .inr hnext
  | openRead hopen =>
    obtain ⟨-, rfl⟩ := Control.openRead_eq_some_iff.1 hopen
    simp only [System.response?, hi]
    exact .inr hnext
  | refuseRead hclosed => cases hclosed.symm.trans (Control.openRead_eq_some_iff.2 ⟨hi, rfl⟩)
  | change hroom => exact .inr (hnext.trans (congrArg some (Plain.call_change_of_room setup hroom)))
  | overflow hover =>
    exact .inr (hnext.trans (congrArg some (Plain.call_change_of_overflow setup hover)))
  | _ => exact .inr hnext

theorem leads_park {w : Wait κ} {elapsed : ℕ} (h : s.control.blocks w = true) :
    s.plainAt setup conduct w.sleep P ((s.response? (.advance run elapsed) w.test).toList ++ R) =
      s.plainAt setup conduct w.test P R := by
  cases w with
  | resumption hold =>
    have hheld : s.control.isHeld hold.generation = true := h
    simp only [Wait.test, System.response?, hheld]
    rfl
  | answer ask =>
    have hwaits : s.control.awaitsAnswer = true := h
    simp only [Wait.test, System.response?, hwaits]
    rfl

/-- **A turn of the worker leaves the run where it is, or is its next step without a debugger.** -/
theorem leads_turn (h : s.Takes setup run args l q s₁ q') (hi : s.control.interrupted = false)
    (hentry : ∀ n, setup.entry n args = entry) (hq : q.phase.isOver = false)
    (hread : ∀ ask, q.phase = .reading ask → s.control.awaitsAnswer = false →
      (s.control.takeAnswer ask.type).2 = conduct.answer P ask.type)
    (hobservers : ∀ payload notice queue after, l = .panicked run payload →
      q ≠ .telling notice queue after)
    (hdecides : conduct.Decides P l q) :
    (s.plainAt setup conduct q P R).Leads setup conduct entry
      (s₁.plainAt setup conduct q'
        ((q.program?.bind fun place => l.decision?.map (Event.mk place)).toList ++ P)
        ((s.response? l q).toList ++ R)) := by
  -- a turn stays where the run is (`inl`), or makes its next step (`inr`); the pauses, waits and
  -- notices stay, for without a debugger there are none
  cases h with
  | told => exact .inl (plainAt_after _ _ [])
  | enter =>
    refine .inr ?_
    rw [hentry]
    rfl
  | @park _ w hb =>
    have hnone : w.test.program? = none := by cases w <;> rfl
    rw [hnone]
    exact .inl (leads_park hb)
  | release hb =>
    simp only [System.response?, hb, hi]
    exact .inl rfl
  | wait hwaits =>
    simp only [System.response?, hwaits]
    exact .inl rfl
  | @take _ _ ask hasks hwaits =>
    obtain rfl | rfl := hasks
    all_goals
      simp only [System.response?, hwaits]
      exact .inl (plainAt_take ask (hread ask rfl hwaits))
  | @close _ exit => cases exit <;> exact .inl rfl
  | @classified elapsed outcome result hresult =>
    refine .inr ((next_classifying outcome elapsed).trans ?_)
    simp only [hresult]
    rfl
  | @misjudged elapsed outcome payload hpayload =>
    refine .inr ((next_classifying outcome elapsed).trans ?_)
    simp only [hpayload]
    rfl
  | retired | tornEnd => cases hq
  | called hcalled => exact leads_called hcalled hi hdecides
  | returned hskips =>
    cases hskips with
    | telling => exact .inl rfl
    | initializing | finalizing => exact .inr (hdecides.next rfl rfl)
    | ending => cases hq
  | tornNotice => exact absurd rfl (hobservers _ _ _ _ rfl)
  | collided hat => exact absurd hat (hobservers _ _ _ _ rfl)
  | unwound | provided | written | cleared | refused | lapsed | unwritten | uncleared | tornStart
  | tornRequest | tornWrite | tornClear | tornStop | caught =>
    exact .inr (hdecides.next rfl rfl)
  | _ => exact .inl rfl

end Turns

/-! ## The other steps -/

section Others

variable {entry : κ} {q : Point κ}

/-- Snapshot, settings and last position are the same. -/
structure SameWorld (s s' : System κ) : Prop where
  position : s'.control.position = s.control.position
  snapshot : s'.snapshot = s.snapshot
  input : s'.input = s.input
  output : s'.output = s.output
  workingDirectory : s'.workingDirectory = s.workingDirectory

theorem SameWorld.plainAt_eq (h : SameWorld s s') (q : Point κ) (P : List (Event κ))
    (R : List Response) : s'.plainAt setup conduct q P R = s.plainAt setup conduct q P R := by
  have hplace : q.place setup (conduct.answer P) s' = q.place setup (conduct.answer P) s := by
    cases q with
    | requesting ask => simp only [Point.place, h.input]
    | recovering message => simp only [Point.place, h.position]
    | closingRead exit => cases exit <;> rfl
    | _ => rfl
  simp only [System.plainAt, hplace, h.position, h.snapshot, h.input, h.output, h.workingDirectory]

theorem plainAt_wake (q : Point κ) (P : List (Event κ)) (R : List Response) :
    s.plainAt setup conduct q.wake P R = s.plainAt setup conduct q P R := by
  cases q <;> rfl

/-- A step after which the worker is where it was, or has been woken, and that tells nothing. -/
theorem plain_kept (h : SameWorld s s')
    (hpoint : s'.point? run = s.point? run ∨
      (s.tasks.length = run ∧ s.point? run = none ∧ s'.point? run = some .queued) ∨
      s'.point? run = (s.point? run).map Point.wake ∧
        (l = .wake run ∨ ∃ t, l = .complete t ∧ (t, .notify) ∈ s.inFlight))
    (hevent : (Moment.mk s l).event? run = none) (hl : l.worker? ≠ some run) :
    s'.plain setup conduct run (⟨s, l⟩ :: m) = s.plain setup conduct run m := by
  have hresponse : (Moment.mk s l).response? run = none := if_neg hl
  unfold System.plain
  rw [past_cons, responses_cons, hevent, hresponse]
  obtain hp | ⟨-, hp, hp'⟩ | ⟨hp, -⟩ := hpoint
  · rw [hp]
    exact h.plainAt_eq _ _ _
  · rw [hp, hp']
    exact h.plainAt_eq _ _ _
  · rw [hp]
    cases s.point? run with
    | none => exact h.plainAt_eq _ _ _
    | some q => exact (plainAt_wake q _ _).trans (h.plainAt_eq _ _ _)

theorem event?_of_not_act (hl : l.worker? ≠ some run) (hact : ∀ t a, l ≠ .act t a) :
    (Moment.mk s l).event? run = none := by
  unfold Moment.event?
  cases l with
  | act t a => exact absurd rfl (hact t a)
  | complete t => simp [Label.decision?]
  | wake r => rfl
  | _ => exact if_neg (by simpa [Label.isOf, Label.worker?, Label.caller?] using hl)

theorem System.Takes.eq_of_isOver (h : s.Takes setup run args l q s₁ q')
    (hq : q.phase.isOver = true) : s₁ = s := by
  obtain ⟨result, queue, hat⟩ | hat := Point.over_cases hq
  all_goals
    cases h with
    | retired | returned | tornEnd => rfl
    | @park _ w => cases w <;> cases hat
    | take hasks => obtain rfl | rfl := hasks <;> cases hat
    | collided hnotice => cases hnotice.symm.trans hat
    | _ => cases hat

theorem sameWorld_of_acts {t : Thread} {a : Action} (h : s.Acts t a s')
    (ha : a.isMaterial = false) (halive : s.control.alive = true) : SameWorld s s' := by
  cases h with
  | start hc => cases halive.symm.trans (Control.start_eq_some_iff.1 hc).1
  | resume hc =>
    obtain ⟨-, rfl⟩ := Control.resume_eq_some_iff.1 hc
    exact ⟨rfl, rfl, rfl, rfl, rfl⟩
  | interrupt hc =>
    obtain ⟨-, rfl⟩ := Control.interrupt_eq_some_iff.1 hc
    exact ⟨rfl, rfl, rfl, rfl, rfl⟩
  | settle _ hc =>
    obtain ⟨-, rfl⟩ := Control.settle_eq_some_iff.1 hc
    exact ⟨rfl, rfl, rfl, rfl, rfl⟩
  | change | setInput | setOutput | setWorkingDirectory => cases ha
  | _ => exact ⟨rfl, rfl, rfl, rfl, rfl⟩

theorem follow_act {t : Thread} {a : Action} {place : Place κ} {P : List (Event κ)}
    {R : List Response} (ha : a.isMaterial = true) (hq : q.program? = some place) :
    ({ s.plainAt setup conduct q P R with past := ⟨place, .act a⟩ :: P } : Plain κ).follow setup
        conduct place (.act a) =
      some ((s.act t a).plainAt setup conduct q (⟨place, .act a⟩ :: P) R) := by
  have hact {place : Place κ} : ∀ p : Plain κ, p.follow setup conduct place (.act a) =
      some (p.act a) := fun p => by
    cases place with
    | initializing left | finalizing left outcome => cases left <;> rfl
    | _ => rfl
  rw [hact]
  cases q with
  | initializing left | finalizing left outcome =>
    cases left with
    | nil => cases hq
    | cons library left => cases a <;> first | rfl | cases ha
  | body state | asking ask provider | writing value sink next | clearing sink next
  | unwinding message => cases a <;> first | rfl | cases ha
  | _ => cases hq

/-- Code of the program changes the snapshot or a setting. -/
theorem leads_act {t : Thread} {a : Action} (ha : a.isMaterial = true)
    (hevent : ((Moment.mk s (.act t a)).event? run).isSome = true)
    (hd : ∀ e, (Moment.mk s (.act t a)).event? run = some e →
      e.decision = conduct.decide (past run m) e.place) :
    (s.plain setup conduct run m).Leads setup conduct entry
      ((s.act t a).plain setup conduct run (⟨s, .act t a⟩ :: m)) := by
  obtain ⟨e, he⟩ := Option.isSome_iff_exists.1 hevent
  have hof : (Label.act t a : Label κ).isOf run = true := by
    by_contra hnot
    rw [Moment.event?, if_neg hnot] at he
    cases he
  have hpoint : ∃ q, s.point? run = some q := by
    by_contra hnone
    have hnone : s.point? run = none := by simpa [Option.eq_none_iff_forall_ne_some] using hnone
    simp [Moment.event?, hnone] at he
  obtain ⟨q, hq⟩ := hpoint
  have hq' : (s.act t a).point? run = some q := by
    rw [← hq]
    cases a <;> first | rfl | cases ha
  have hdecision : (Label.act t a : Label κ).decision? = some (.act a) := if_pos ha
  have hresponse : (Moment.mk s (.act t a)).response? run = none := rfl
  have hdecides := decides_of_event hof hq hd
  rw [Moment.event?_eq hof hq, hdecision] at he
  obtain ⟨place, hplace, he⟩ := Option.bind_eq_some_iff.1 he
  rw [plain_eq hq, plain_eq hq', past_cons, responses_cons, hresponse, Moment.event?_eq hof hq,
    hdecision, hplace]
  exact .inr ((hdecides.next hplace hdecision).trans (follow_act ha hplace))

end Others

end RunControl
