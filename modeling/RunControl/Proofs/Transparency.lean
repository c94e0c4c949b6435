import RunControl.Proofs.Debugged

/-!
# Debugging does not show

A run of a program that behaves as a `Conduct` says follows the run without a debugger from its
start to its end. Two such runs that begin alike therefore end alike, whatever has been done to them
with modes, breakpoints and resumes.

* `Underway`: what every step keeps of such a run;
* **`Underway.leads`**, **`Underway.step`**: a step leaves the run where it is, or is its next step
  without a debugger;
* `Performed`: such a run, from an accepted start to its result;
* **`Performed.transparent`**: runs that differ in debugging do the same.
-/

namespace RunControl

variable {κ : Type} {setup : Setup κ} {conduct : Conduct κ} {s s' s₀ s₁ : System κ}
  {l : Label κ} {run : RunId} {m : List (Moment κ)}

/-! ## A run on its way -/

theorem Conforms.of_cons {x : Moment κ} (h : Conforms conduct run (x :: m)) :
    Conforms conduct run m ∧
      (∀ e, x.event? run = some e → e.decision = conduct.decide (past run m) e.place) ∧
      x.Benign conduct run (past run m) := by
  have hdecides := h.decides
  rw [past_cons] at hdecides
  cases he : x.event? run with
  | none =>
    rw [he] at hdecides
    refine ⟨⟨hdecides, h.undisturbed.2⟩, fun e he' => ?_, h.undisturbed.1⟩
    cases he'
  | some e =>
    rw [he] at hdecides
    obtain ⟨hhead, htail⟩ := List.cons.inj hdecides
    refine ⟨⟨htail, h.undisturbed.2⟩, ?_, h.undisturbed.1⟩
    rintro e' ⟨⟩
    exact congrArg Event.decision hhead.symm

/-- What every step keeps of a run that behaves as the conduct says, up to its end: it is at work in
the pool or on its way to it, and a read is open or settled as the conduct says. -/
structure Underway (conduct : Conduct κ) (run : RunId) (args : List String) (m : List (Moment κ))
    (s : System κ) : Prop where
  sound : Sound s
  pool : (∃ f, s.phase? run = some f ∧ f.isOver = false) ∨ s.tasks.length = run ∧ 0 < s.owed
  interrupted : s.control.interrupted = false
  submitted : ∀ {t a}, (t, .submit a) ∈ s.inFlight → a = args
  args : ∀ task, s.tasks[run]? = some task → task.args = args
  read : ∀ {ask}, s.phase? run = some (.reading ask) → s.control.read.abandoned = false ∧
    (s.control.read.outcome = .pending ∨
      s.control.read.outcome = ReadOutcome.ofAnswer (conduct.reply (asked (past run m))))

namespace Underway

variable {args : List String} {entry : κ} {q : Point κ}

theorem alive (h : Underway conduct run args m s) : s.control.alive = true := by
  obtain ⟨f, hf, hlive⟩ | ⟨-, howed⟩ := h.pool
  · exact h.sound.orderly.alive_of_phase hf hlive
  · by_contra ha
    have hzero := h.sound.orderly.outstanding
    rw [if_neg ha, System.outstanding] at hzero
    omega

theorem isOver_eq_false (h : Underway conduct run args m s) (hq : s.point? run = some q) :
    q.phase.isOver = false := by
  have hphase : s.phase? run = some q.phase := by rw [System.phase?, hq, Option.map_some]
  obtain ⟨f, hf, hlive⟩ | ⟨hlen, -⟩ := h.pool
  · obtain rfl := Option.some.inj (hphase.symm.trans hf)
    exact hlive
  · obtain ⟨t, ht, -⟩ := System.point?_eq_some_iff.1 hq
    have hlt := (List.getElem?_eq_some_iff.1 ht).1
    omega

theorem isOver_of_ne (h : Underway conduct run args m s) {r : RunId} (hr : r ≠ run)
    {f : Phase κ} (hf : s.phase? r = some f) : f.isOver = true := by
  by_contra hlive
  have hlive : f.isOver = false := by simpa using hlive
  obtain ⟨g, hg, hlive'⟩ | ⟨-, howed⟩ := h.pool
  · exact hr (h.sound.orderly.eq_of_phase hf hlive hg hlive')
  · rw [h.sound.orderly.owed_eq_zero hf hlive] at howed
    cases howed

theorem answer (h : Underway conduct run args m s) {ask : Ask κ}
    (hf : s.phase? run = some (.reading ask)) (hawaits : s.control.awaitsAnswer = false) :
    (s.control.takeAnswer ask.type).2 = conduct.answer (past run m) ask.type := by
  obtain ⟨habandoned, hpending | houtcome⟩ := h.read hf
  · -- an open read keeps the worker waiting
    have hblocks : s.control.awaitsAnswer = true :=
      Control.awaitsAnswer_iff.2 ⟨hpending, habandoned, h.interrupted⟩
    rw [hblocks] at hawaits
    cases hawaits
  · unfold Control.takeAnswer Conduct.answer
    simp only [h.interrupted, habandoned, houtcome, Bool.false_eq_true, if_false]
    cases conduct.reply (asked (past run m)) with
    | none => rfl
    | some v => cases hv : v.coerce ask.type <;> simp [ReadOutcome.ofAnswer, hv]

/-- A step of another thread leaves snapshot, settings and last position alone. -/
theorem sameWorld (h : Underway conduct run args m s) (hl : l.worker? ≠ some run)
    (hact : ∀ t a, l ≠ .act t a) (hs : s.step setup l = some s') : SameWorld s s' := by
  cases System.does_of_step hs with
  | act => exact absurd rfl (hact _ _)
  | @complete _ owed => cases owed <;> exact ⟨rfl, rfl, rfl, rfl, rfl⟩
  | wake => exact ⟨rfl, rfl, rfl, rfl, rfl⟩
  | @turn r _ task s₁ _ hw hfree htakes =>
    have hphase := System.phase?_eq_some_iff.2
      ⟨task, (System.freeTask?_eq_some_iff.1 hfree).2, rfl⟩
    have hr : r ≠ run := fun he => hl (he ▸ hw)
    obtain rfl := htakes.eq_of_isOver (h.isOver_of_ne hr hphase)
    exact ⟨rfl, rfl, rfl, rfl, rfl⟩

/-- **A step leaves a run where it is, or is its next step without a debugger.** -/
theorem leads (h : Underway conduct run args m s) (hentry : ∀ n, setup.entry n args = entry)
    (hd : ∀ e, (Moment.mk s l).event? run = some e →
      e.decision = conduct.decide (past run m) e.place)
    (hx : (Moment.mk s l).Benign conduct run (past run m)) (hs : s.step setup l = some s') :
    (s.plain setup conduct run m).Leads setup conduct entry
      (s'.plain setup conduct run (⟨s, l⟩ :: m)) := by
  -- a turn of the worker is a step of the plain run or none; the world around it cannot interfere
  by_cases hl : l.worker? = some run
  · obtain ⟨⟨args', q⟩, s₁, q', ht, rfl, htakes⟩ := System.takes_of_step hl hs
    have htask := (System.freeTask?_eq_some_iff.1 ht).2
    obtain rfl : args' = args := h.args _ htask
    have hpoint : s.point? run = some q := System.point?_eq_some_iff.2 ⟨_, htask, rfl⟩
    have hq' : (s₁.goto run q').point? run = some q' :=
      System.point?_goto ((htakes.point? run).trans hpoint)
    have hphase : s.phase? run = some q.phase := by rw [System.phase?, hpoint, Option.map_some]
    have hof : l.isOf run = true := by simp [Label.isOf, hl]
    have hevent := Moment.event?_eq hof hpoint
    have hresponse : (Moment.mk s l).response? run = s.response? l q := by
      simp [Moment.response?, hl, hpoint]
    have hdecides := decides_of_event hof hpoint hd
    have hobservers (payload : Payload) (notice : Notice) (queue : List ObserverId)
        (after : AfterNotice κ) (he : l = .panicked run payload) :
        q ≠ .telling notice queue after := by
      subst he
      rintro rfl
      have htelling := hx.observers (decide_eq_true rfl)
      rw [hpoint] at htelling
      cases htelling
    have hleads := leads_turn (R := responses run m) htakes h.interrupted hentry
      (h.isOver_eq_false hpoint) (fun ask hask => h.answer (hask ▸ hphase)) hobservers hdecides
    rw [plain_eq hpoint, plain_eq hq', past_cons, responses_cons, hevent, hresponse]
    exact hleads
  · -- the worker is where it was or has been woken, unless code on it changes something
    have hkept := (System.stepped_of_step hs).point?_cases hl
    by_cases hact : ∀ t a, l ≠ .act t a
    · exact .inl (plain_kept (h.sameWorld hl hact hs) hkept (event?_of_not_act hl hact) hl)
    · simp only [not_forall, not_not] at hact
      obtain ⟨t, a, rfl⟩ := hact
      obtain ⟨-, rfl⟩ := System.act_of_step hs
      cases hmaterial : a.isMaterial with
      | true => exact leads_act hmaterial (hx.acts hmaterial) hd
      | false =>
        refine .inl (plain_kept (sameWorld_of_acts (s.acts_act t a) hmaterial h.alive) hkept ?_ hl)
        simp [Moment.event?, Label.decision?, hmaterial]

theorem starts (h : Underway conduct run args m s) : (Moment.mk s l).starts = false :=
  Moment.starts_of_alive h.alive

theorem pool_step (h : Underway conduct run args m s) (hs : s.step setup l = some s')
    (hlive : ∀ f, s'.phase? run = some f → f.isOver = false) :
    (∃ f, s'.phase? run = some f ∧ f.isOver = false) ∨ s'.tasks.length = run ∧ 0 < s'.owed := by
  have hcount := starts_of_step h.sound.orderly hs
  have hlength := Orderly.length_tasks (System.stepped_of_step hs)
  simp only [h.starts, Bool.false_eq_true, if_false, Nat.add_zero] at hcount
  obtain hrun | hrun := Nat.lt_or_ge run s'.tasks.length
  · have hphase : s'.phase? run = some (s'.tasks[run]).point.phase :=
      System.phase?_eq_some_iff.2 ⟨_, List.getElem?_eq_getElem hrun, rfl⟩
    exact .inl ⟨_, hphase, hlive _ hphase⟩
  · obtain ⟨f, hf, -⟩ | ⟨hlen, howed⟩ := h.pool
    · obtain ⟨t, ht, -⟩ := System.phase?_eq_some_iff.1 hf
      have hlt := (List.getElem?_eq_some_iff.1 ht).1
      omega
    · exact .inr (by omega)

theorem handed (h : Underway conduct run args m s) : Handed run args s := ⟨h.submitted, h.args⟩

theorem asked_step {ask : Ask κ} (hf : s.phase? run = some (.reading ask)) :
    asked (past run (⟨s, l⟩ :: m)) = asked (past run m) := by
  rw [past_cons]
  cases he : (Moment.mk s l).event? run with
  | none => rfl
  | some e =>
    have hread : e.isRead = false := by
      unfold Moment.event? at he
      split at he
      · obtain ⟨place, hplace, he⟩ := Option.bind_eq_some_iff.1 he
        obtain ⟨q, hq, hplace⟩ := Option.bind_eq_some_iff.1 hplace
        obtain ⟨decision, -, rfl⟩ := Option.map_eq_some_iff.1 he
        rw [System.phase?, hq] at hf
        cases q with
        | asking ask provider =>
          obtain rfl := Option.some.inj hplace
          rfl
        | initializing left | body state | writing value sink next | clearing sink next
        | unwinding message | finalizing left outcome => cases hf
        | _ => cases hplace
      · cases he
    simp [asked, hread]

theorem read_act (h : Underway conduct run args m s) {t : Thread} {a : Action} {c' : Control}
    {hs' : List UInt64} {owed : Option Pending} {ask : Ask κ}
    (hx : (Moment.mk s (.act t a)).Benign conduct run (past run m))
    (hf : s.phase? run = some (.reading ask)) (ha : Acted s.control s.handles a c' hs' owed) :
    c'.read = s.control.read ∨ c'.read.abandoned = false ∧
      c'.read.outcome = ReadOutcome.ofAnswer (conduct.reply (asked (past run m))) := by
  have hawaiting := h.sound.openRead.awaiting hf rfl
  cases ha with
  | start hc =>
    have halive := (Control.start_eq_some_iff.1 hc).1
    rw [h.alive] at halive
    cases halive
  | resume hc =>
    have hread := hx.resumes (Option.isSome_of_eq_some hc)
    rw [hawaiting] at hread
    cases hread
  | interrupt hc => exact .inl (by rw [(Control.interrupt_eq_some_iff.1 hc).2])
  | @settle ticket answer c' hk hc =>
    obtain ⟨⟨-, rfl, hopen⟩, rfl⟩ := Control.settle_eq_some_iff.1 hc
    have hanswer := hx.settles hawaiting answer (if_pos ⟨rfl, hk⟩)
    exact .inr ⟨(Control.isOpen_iff.1 hopen).2, by rw [hanswer]⟩
  | late | activate | other => exact .inl rfl

theorem read_step (h : Underway conduct run args m s)
    (hx : (Moment.mk s l).Benign conduct run (past run m)) (hs : s.step setup l = some s')
    {ask : Ask κ} (hf : s'.phase? run = some (.reading ask)) :
    s'.control.read.abandoned = false ∧ (s'.control.read.outcome = .pending ∨
      s'.control.read.outcome =
        ReadOutcome.ofAnswer (conduct.reply (asked (past run (⟨s, l⟩ :: m))))) := by
  have hstepped := System.stepped_of_step hs
  have hsame (hf : s.phase? run = some (.reading ask))
      (hread : s'.control.read = s.control.read) : s'.control.read.abandoned = false ∧
      (s'.control.read.outcome = .pending ∨ s'.control.read.outcome =
        ReadOutcome.ofAnswer (conduct.reply (asked (past run (⟨s, l⟩ :: m))))) := by
    rw [hread, asked_step hf]
    exact h.read hf
  by_cases hl : l.worker? = some run
  · -- a turn that ends in a read has been in it before, or opens it
    obtain ⟨t, q, ht⟩ := System.turned_of_step hl hs
    obtain ⟨hp, hp'⟩ := ht.phase?
    obtain ⟨hread, -, hasked⟩ | ⟨hread, -⟩ | ⟨-, -, -, exit, hclosing⟩ | ⟨-, -, hclosed⟩ :=
      ht.turn.read_cases
    · have hask := hasked ask (Option.some.inj (hp'.symm.trans hf))
      exact hsame (hask ▸ hp) hread
    · rw [hread]
      exact ⟨rfl, .inl rfl⟩
    · rw [hp', hclosing] at hf
      cases hf
    · rw [hp'] at hf
      rw [Option.some.inj hf] at hclosed
      cases hclosed
  -- a step of another leaves the read as it is, unless it settles it, and then as agreed
  · obtain he | ⟨-, -, hbusy⟩ := hstepped.phase?_eq hl
    · have hf : s.phase? run = some (.reading ask) := he ▸ hf
      by_cases hact : ∀ t a, l ≠ .act t a
      · exact hsame hf (congrArg Control.read (hstepped.kept h.sound.orderly hf rfl hl hact).1)
      · simp only [not_forall, not_not] at hact
        obtain ⟨t, a, rfl⟩ := hact
        cases hstepped with
        | act _ ha =>
          obtain hread | hsettled := h.read_act hx hf ha
          · exact hsame hf hread
          · rw [asked_step hf]
            exact ⟨hsettled.1, .inr hsettled.2⟩
        | turn hw => cases hw
    · rw [hf] at hbusy
      cases hbusy

/-- **A step keeps all of this, unless it ends the run.** -/
theorem step (h : Underway conduct run args m s)
    (hx : (Moment.mk s l).Benign conduct run (past run m)) (hs : s.step setup l = some s')
    (hlive : ∀ f, s'.phase? run = some f → f.isOver = false) :
    Underway conduct run args (⟨s, l⟩ :: m) s' where
  sound := h.sound.step hs
  pool := h.pool_step hs hlive
  interrupted := by
    rw [interrupted_of_step hs, h.starts, h.interrupted, hx.interrupts]
    rfl
  submitted := (h.handed.step h.starts hs).submitted
  args := (h.handed.step h.starts hs).args
  read := h.read_step hx hs

theorem start {t : Thread} {mode : DebugMode} {c : Control} (hr : Reachable setup s₀)
    (hc : s₀.control.start mode = some c)
    (hs : s₀.step setup (.act t (.start args mode)) = some s₁)
    (he : s₁ = ({ s₀ with control := c } : System κ).promise t (.submit args)) :
    Underway conduct s₀.tasks.length args [] s₁ := by
  obtain ⟨-, hcontrol⟩ := Control.start_eq_some_iff.1 hc
  subst he hcontrol
  have hnone : s₀.tasks[s₀.tasks.length]? = none := List.getElem?_eq_none (Nat.le_refl _)
  have hhanded := @Handed.start _ _ args _ _ t hr.orderly hc
  refine
    { sound := hr.sound.step hs
      pool := .inr ⟨rfl, List.countP_pos_iff.2 ⟨(t, .submit args), by simp [System.promise], rfl⟩⟩
      interrupted := rfl
      submitted := hhanded.submitted
      args := hhanded.args
      read := fun hf => ?_ }
  · obtain ⟨task, ht, -⟩ := System.phase?_eq_some_iff.1 hf
    cases hnone.symm.trans ht

/-- **Up to its end, a run goes where it would go without a debugger.** -/
theorem reaches (h : Underway conduct run args [] s₁) (hentry : ∀ n, setup.entry n args = entry)
    (hm : Trail setup s₁ m s) (hc : Conforms conduct run m)
    (hlive : ∀ f, s.phase? run = some f → f.isOver = false) :
    Underway conduct run args m s ∧
      Plain.Reaches setup conduct entry (s₁.plain setup conduct run [])
        (s.plain setup conduct run m) := by
  -- by induction on the steps: `Underway` holds up to the end, since a run that is over stays so
  induction hm with
  | nil => exact ⟨h, .refl⟩
  | @cons m s s' l hm hs ih =>
    obtain ⟨hc, hd, hx⟩ := hc.of_cons
    have hlive' (f : Phase κ) (hf : s.phase? run = some f) : f.isOver = false := by
      by_contra hover
      have hany : (s.phase? run).any Phase.isOver = true := by rw [hf]; simpa using hover
      obtain ⟨f', hf', hover'⟩ := (Option.any_eq_true _ _).1 (System.isOver_of_step hany hs)
      cases (hlive f' hf').symm.trans hover'
    obtain ⟨hunder, hreach⟩ := ih hc hlive'
    refine ⟨hunder.step hx hs hlive, ?_⟩
    obtain hstay | hnext := hunder.leads hentry hd hx hs
    · rw [hstay]
      exact hreach
    · exact hreach.tail hnext

end Underway

/-! ## Two runs -/

/-- The state of a run that has just been started. -/
def System.begun (setup : Setup κ) (s : System κ) : Plain κ where
  place := .initializing setup.libraries
  position := Position.unknown
  snapshot := s.snapshot
  input := s.input
  output := s.output
  workingDirectory := s.workingDirectory
  responses := []
  past := []

/-- In the state `s₀` a run is started, in whatever mode, and the steps `m` lead it to where its
result is known and the next step of the worker ends it. Its program behaves as the conduct says,
and nobody meddles. -/
structure Performed (setup : Setup κ) (conduct : Conduct κ) (args : List String) (s₀ : System κ)
    (m : List (Moment κ)) (s : System κ) (result : RunResult) : Prop where
  reachable : Reachable setup s₀
  started : ∃ t mode s₁, (Moment.mk s₀ (.act t (.start args mode))).starts = true ∧
    s₀.step setup (.act t (.start args mode)) = some s₁ ∧ Trail setup s₁ m s
  conforms : Conforms conduct s₀.tasks.length m
  result : s.phase? s₀.tasks.length = some (.finishing result)

namespace Performed

variable {args : List String} {entry : κ} {s₀' : System κ} {m' : List (Moment κ)}
  {result result' : RunResult}

/-- **A run ends where it would end without a debugger.** -/
theorem reaches (h : Performed setup conduct args s₀ m s result)
    (hentry : ∀ n, setup.entry n args = entry) :
    Plain.Reaches setup conduct entry (s₀.begun setup)
      (s.plain setup conduct s₀.tasks.length m) := by
  obtain ⟨t, mode, s₁, hstarts, hs, hm⟩ := h.started
  obtain ⟨c, hc⟩ := Option.isSome_iff_exists.1 hstarts
  have he : s₁ = ({ s₀ with control := c } : System κ).promise t (.submit args) := by
    obtain ⟨-, rfl⟩ := System.act_of_step hs
    simp only [System.act, hc]
  have hunder : Underway conduct s₀.tasks.length args [] s₁ := .start h.reachable hc hs he
  have hbegun : s₁.plain setup conduct s₀.tasks.length [] = s₀.begun setup := by
    subst he
    rw [(Control.start_eq_some_iff.1 hc).2]
    have hnone : s₀.point? s₀.tasks.length = none := by simp [System.point?]
    have hpoint (s : System κ) (h : s.point? s₀.tasks.length = none) :
        s.plain setup conduct s₀.tasks.length [] = s.plainAt setup conduct .queued [] [] := by
      rw [System.plain, h]
      rfl
    exact hpoint _ hnone
  rw [← hbegun]
  refine (hunder.reaches hentry hm h.conforms fun f hf => ?_).2
  obtain rfl := Option.some.inj (h.result.symm.trans hf)
  rfl

theorem plain_eq (h : Performed setup conduct args s₀ m s result) :
    s.plain setup conduct s₀.tasks.length m =
      { place := .ofResult result
        position := s.control.position
        snapshot := s.snapshot
        input := s.input
        output := s.output
        workingDirectory := s.workingDirectory
        responses := responses s₀.tasks.length m
        past := past s₀.tasks.length m } := by
  obtain ⟨⟨a, q⟩, ht, hq⟩ := System.phase?_eq_some_iff.1 h.result
  have hpoint : s.point? s₀.tasks.length = some q := System.point?_eq_some_iff.2 ⟨_, ht, rfl⟩
  rw [RunControl.plain_eq hpoint]
  cases q with
  | finishing r watchers =>
    obtain rfl : r = result := Phase.finishing.inj hq
    rfl
  | announcing notice after | telling notice queue after =>
    cases after with
    | leaveRead exit => cases exit <;> cases hq
    | _ => cases hq
  | _ => cases hq

/-- **Debugging does not show.** -/
theorem transparent (h : Performed setup conduct args s₀ m s result)
    (h' : Performed setup conduct args s₀' m' s' result')
    (hentry : ∀ n, setup.entry n args = entry) (hsnapshot : s₀'.snapshot = s₀.snapshot)
    (hinput : s₀'.input = s₀.input) (houtput : s₀'.output = s₀.output)
    (hdirectory : s₀'.workingDirectory = s₀.workingDirectory) :
    responses s₀'.tasks.length m' = responses s₀.tasks.length m ∧
      past s₀'.tasks.length m' = past s₀.tasks.length m ∧ s'.snapshot = s.snapshot ∧
      result'.termination = result.termination ∧ result'.error = result.error := by
  have hbegun : s₀'.begun setup = s₀.begun setup := by
    simp only [System.begun, hsnapshot, hinput, houtput, hdirectory]
  have hreach := h.reaches hentry
  have hreach' := h'.reaches hentry
  rw [h.plain_eq] at hreach
  rw [hbegun, h'.plain_eq] at hreach'
  obtain ⟨hplace, -, hsnapshot, -, -, -, hresponses, hpast⟩ :=
    Plain.mk.inj (Plain.Reaches.eq_of_ended hreach' hreach rfl rfl)
  obtain ⟨htermination, herror⟩ := Place.ended.inj hplace
  exact ⟨hresponses, hpast, hsnapshot, htermination, herror⟩

end Performed

/-! ### A program that writes what it reads -/

/-- Where a body is that reads a number and writes it. -/
inductive Echo
  | begin
  | read
  | write (v : Value)
  | stop

/-- Report a position, read a number and write it. -/
def Echo.call : Echo → Call Echo
  | begin => .pausePoint ⟨1, 1⟩ fun _ => read
  | read => .read .integer fun
    | .ok v => write v
    | .error _ => stop
  | write v => .write v fun _ => stop
  | stop => .finish (.ok ())

/-- The program reads a five, and its sink takes everything. -/
def Conduct.echo : Conduct Echo where
  decide _ place := match place with
    | .body state => .call state.call
    | _ => .returned
  reply _ := some (.integer 5)

namespace Echo

/-- Before the first run. -/
def idle : System Echo := System.initial (Setup.bare begin) ""

/-- The first run has been started. -/
def begun (mode : DebugMode) : System Echo := idle.act (.controller 0) (.start [] mode)

/-- From the start up to the position. -/
def toPosition : List (Label Echo) :=
  [.complete (.controller 0), .advance 0 0, .advance 0 0, .advance 0 0, .advance 0 0,
    .call 0 begin.call]

/-- A pause and a resume. -/
def pause : List (Label Echo) :=
  [.advance 0 0, .advance 0 0, .advance 0 0, .advance 0 0, .advance 0 0,
    .act (.controller 1) (.resume .stopped), .complete (.controller 1), .advance 0 0, .advance 0 0,
    .advance 0 0]

/-- From the position to the end. -/
def fromPosition : List (Label Echo) :=
  [.call 0 read.call, .advance 0 0, .act (.controller 2) (.settle 1 (some (.integer 5))),
    .complete (.controller 2), .returned 0, .advance 0 0, .advance 0 0, .advance 0 0, .advance 0 0,
    .call 0 (write (.integer 5)).call, .returned 0, .call 0 stop.call, .advance 0 0, .advance 0 0,
    .advance 0 0]

/-- A run without pauses. -/
def free : List (Moment Echo) := (begun .stopped).moments (.bare begin) (toPosition ++ fromPosition)

/-- A run that pauses, is resumed and runs on. -/
def stepped : List (Moment Echo) :=
  (begun .stepInto).moments (.bare begin) (toPosition ++ pause ++ fromPosition)

end Echo

open Echo in
theorem transparent_echo :
    free.any Moment.resumes = false ∧ stepped.any Moment.resumes = true ∧
      responses 0 free = [.done (.ok ()), .value (.ok (.integer 5)), .done (.ok ())] ∧
      ∃ s r s' r', Performed (.bare begin) Conduct.echo [] idle free s r ∧
        Performed (.bare begin) Conduct.echo [] idle stepped s' r' ∧
        responses 0 stepped = responses 0 free ∧ past 0 stepped = past 0 free ∧
        s'.snapshot = s.snapshot ∧ r'.termination = r.termination ∧ r'.error = r.error := by
  have hfree : ∃ s r, Performed (.bare begin) Conduct.echo [] idle free s r :=
    ⟨_, _,
      { reachable := ⟨"", [], .nil⟩
        started := ⟨.controller 0, .stopped, begun .stopped, rfl, rfl,
          trail_of_steps (show _ = some _ from rfl)⟩
        conforms := ⟨rfl, by decide +kernel⟩
        result := rfl }⟩
  have hstepped : ∃ s r, Performed (.bare begin) Conduct.echo [] idle stepped s r :=
    ⟨_, _,
      { reachable := ⟨"", [], .nil⟩
        started := ⟨.controller 0, .stepInto, begun .stepInto, rfl, rfl,
          trail_of_steps (show _ = some _ from rfl)⟩
        conforms := ⟨rfl, by decide +kernel⟩
        result := rfl }⟩
  obtain ⟨s, r, hfree⟩ := hfree
  obtain ⟨s', r', hstepped⟩ := hstepped
  exact ⟨rfl, rfl, rfl, s, r, s', r', hfree, hstepped,
    Performed.transparent hfree hstepped (fun _ => rfl) rfl rfl rfl rfl⟩

end RunControl
