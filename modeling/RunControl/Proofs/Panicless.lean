import RunControl.Proofs.Operands

/-!
# No demo that computes panics

A run that a panic has ended has a problem without a kind, at the last position that was reported.
The demos that compute never end so, whatever is entered, and also when the user is asked for
commands. An argument that is no integer is a problem without a kind as well; it is told apart by
its position, since no position in the first column is reported.

* `RunResult.IsPanic`: the result of a panic;
* `Fault.Panicless`, `Body.Panicless`, `Routine.Panicless`: what is not taken for a panic;
* **`Terminal.Trail.not_isPanic`**: the two demos at a terminal.
-/

namespace RunControl

/-- The result is that of a panic, less the time. -/
def RunResult.IsPanic (r : RunResult) (last : Position) : Prop :=
  ∃ message, r = ofPanic message last 0

/-- The fault is not taken for a panic, unless a position in the first column has been reported. -/
def Fault.Panicless (f : Fault) : Prop := ∀ (program : ProgramInfo) (last : Position),
  last.column ≠ 1 → ∃ r,
    RunResult.ofOutcome Translators.standard program last 0 (.error f) = .ok r ∧
      ¬ r.timeless.IsPanic last

/-- If there is a result, it is not that of a panic. -/
def Dialogue.Panicless (d : Dialogue) : Prop := ∀ r, d.result = some r →
  ¬ r.IsPanic d.control.position

/-- However the dialogue with the body began, it does not end in a panic. -/
def Body.Panicless (p : TerminalPlan) (b : Body) : Prop := ∀ d : Dialogue,
  d.control.position.column ≠ 1 → (b.perform p d).Panicless

/-! ## Faults -/

theorem RunResult.not_isPanic_failed {d : Diagnostic} {last : Position}
    (h : d.kind ≠ .unhandled ∨ d.position ≠ last) : ¬ (failed d 0).IsPanic last := by
  rintro ⟨message, he⟩
  obtain rfl := Option.some.inj (congrArg RunResult.error he)
  refine h.elim (fun hkind => hkind rfl) fun hposition => hposition ?_
  simp [Diagnostic.unhandled, Diagnostic.unplaced, Diagnostic.fillPosition, Diagnostic.place,
    Position.unknown]

namespace Fault

theorem panicless_interrupted : Fault.interrupted.Panicless := fun _ _ _ =>
  ⟨_, rfl, fun ⟨_, he⟩ => nomatch congrArg RunResult.error he⟩

theorem panicless_invalidInput (type : DataType) : (invalidInput type).Panicless := fun _ _ _ =>
  ⟨_, rfl, RunResult.not_isPanic_failed (.inl (by nofun))⟩

theorem panicless_arithmetic {f : RuntimeFault} (h : f.category = .arithmetic) :
    (Fault.runtime f).Panicless := by
  intro program last _
  have hfind : Translators.standard.find? f.category = some Translator.arithmetic := by
    rw [h]
    rfl
  simp only [RunResult.ofOutcome, Fault.diagnostic?, Translators.translate, hfind,
    Translator.arithmetic]
  refine ⟨_, rfl, RunResult.not_isPanic_failed (.inl ?_)⟩
  split_ifs <;> exact fun he => by cases he

theorem panicless_conversion (arg : String) (line : UInt32) :
    (Demo.conversionFault arg line).Panicless := by
  intro program last hlast
  refine ⟨_, rfl, RunResult.not_isPanic_failed (.inr fun he => hlast ?_)⟩
  exact (congrArg Position.column he).symm

end Fault

/-! ## Dialogues -/

namespace Dialogue

variable {p : TerminalPlan} {d : Dialogue}

theorem position_command (lines : List ConsoleLine) (d : Dialogue) :
    (command p lines d).control.position = d.control.position := by
  have hinterrupt (d : Dialogue) : d.interrupt.control.position = d.control.position := by
    rw [interrupt]
    cases h : d.control.interrupt with
    | none => rfl
    | some c => rw [Option.getD_some, (Control.interrupt_eq_some_iff.1 h).2]
  have hresume (d : Dialogue) (mode : DebugMode) :
      (d.resume mode).control.position = d.control.position := by
    rw [resume]
    cases h : d.control.resume mode with
    | none => rfl
    | some c => rw [Option.getD_some, (Control.resume_eq_some_iff.1 h).2]
  induction lines generalizing d with
  | nil => exact hinterrupt _
  | cons line rest ih =>
    cases line with
    | garbled => exact hinterrupt _
    | text s =>
      rw [command]
      cases Command.ofText s with
      | error word => exact ih _
      | ok command =>
        cases hmode : command.resumeMode with
        | none =>
          simp only [hmode]
          exact hinterrupt _
        | some mode =>
          simp only [hmode]
          exact hresume _ mode

theorem position_pause (d : Dialogue) (line : UInt32) :
    (d.pause p line).control.position = d.control.position := by
  simp only [pause, foldl_say]
  exact position_command _ _

theorem panicless_conclude {outcome : Except Fault Unit} (hd : d.control.position.column ≠ 1)
    (h : ∀ f, outcome = .error f → f.Panicless) : (d.conclude p outcome).Panicless := by
  have htranslators : p.setup.translators = Translators.standard := rfl
  have hresult : ∃ r, RunResult.ofOutcome Translators.standard p.setup.info d.control.position 0
      outcome = .ok r ∧ ¬ r.timeless.IsPanic d.control.position := by
    cases outcome with
    | ok => exact ⟨_, rfl, fun ⟨_, he⟩ => nomatch congrArg RunResult.error he⟩
    | error f => exact h f rfl _ _ hd
  obtain ⟨r, hr, hpanic⟩ := hresult
  intro r' hr'
  simp only [conclude, htranslators, hr] at hr' ⊢
  obtain rfl := Option.some.inj hr'
  exact hpanic

theorem panicless_verdict {f : Fault} (h : d.verdict = .error f) : f.Panicless := by
  unfold verdict at h
  split_ifs at h
  obtain rfl := Except.error.inj h
  exact Fault.panicless_interrupted

end Dialogue

theorem ConsoleLine.panicless_reply {type : DataType} {line : Option ConsoleLine} {f : Fault}
    (h : reply type line = .error f) : f.Panicless := by
  unfold reply at h
  split at h
  · cases h
  · obtain rfl := Except.error.inj h
    exact Fault.panicless_invalidInput type

variable {p : TerminalPlan} {α β : Type}

/-! ## Routines -/

namespace Routine

/-- A piece of a body after which no panic is reported. -/
def Panicless (p : TerminalPlan) : Routine Body α → Prop :=
  Upholds (Body.Panicless p) Fault.Panicless

theorem panicless_ok (a : α) (f : Fault) (h : Except.ok a = .error f) : f.Panicless := nomatch h

theorem panicless_error_interrupted (f : Fault)
    (h : (Except.error .interrupted : Except Fault α) = .error f) : f.Panicless :=
  Except.error.inj h ▸ Fault.panicless_interrupted

theorem panicless_pausePoint (line : UInt32) {column : UInt32} (hcolumn : column ≠ 1) :
    Panicless p (pausePoint line column) := by
  refine upholds_lift fun next hnext d _ => ?_
  simp only [Body.perform, Control.reach]
  split
  · exact hnext _ panicless_error_interrupted _ hcolumn
  · exact hnext _ (panicless_ok ()) _ hcolumn
  · refine hnext _ (fun _ => Dialogue.panicless_verdict) _ ?_
    rw [Dialogue.position_pause]
    exact hcolumn

theorem panicless_read (type : DataType) : Panicless p (read type) := by
  refine upholds_lift fun next hnext d hd => ?_
  simp only [Body.perform]
  split
  · exact hnext _ panicless_error_interrupted _ hd
  · next c hopen =>
    have henter := Dialogue.enter_eq (d := { d with calls := d.calls + 1 }) hopen type
    obtain ⟨-, rfl⟩ := Control.openRead_eq_some_iff.1 hopen
    simp only [henter]
    exact hnext _ (fun _ => ConsoleLine.panicless_reply) _ hd

theorem panicless_readInteger : Panicless p readInteger :=
  (panicless_read .integer).readInteger (Fault.panicless_invalidInput .integer)

theorem panicless_write (v : Value) : Panicless p (write v) := by
  refine upholds_lift fun next hnext d hd => ?_
  simp only [Body.perform]
  exact hnext _ (panicless_ok ()) _ hd

theorem panicless_declareScalar (id : ℕ) : Panicless p (change (.declareScalar id)) := by
  intro ok err hok herr d hd
  simp only [change, Asks.ask, Body.perform]
  exact hok () _ hd

theorem panicless_writeScalar (id : ℕ) (c : Cell) :
    Panicless p (change (.writeScalar id c)) := by
  intro ok err hok herr d hd
  simp only [change, Asks.ask, Body.perform]
  exact hok () _ hd

theorem Panicless.body {r : Routine Body Unit} (h : Panicless p r) : Body.Panicless p r.body := by
  refine h _ _ (fun _ d hd => ?_) fun f hf d hd => ?_
  · simp only [Asks.ask, Body.perform]
    exact Dialogue.panicless_conclude hd (panicless_ok ())
  · simp only [Asks.ask, Body.perform]
    refine Dialogue.panicless_conclude hd fun f' hf' => ?_
    obtain rfl := Except.error.inj hf'
    exact hf

end Routine

/-! ## The demos -/

namespace Demo

open Routine

theorem panicless_integerArgument (arg : String) (line : UInt32) :
    Panicless p (integerArgument arg line) := by
  unfold integerArgument
  split
  · exact upholds_pure _
  · exact upholds_fail (Fault.panicless_conversion arg line)

theorem panicless_twoIntegers (args : List String) : Panicless p (twoIntegers args) := by
  unfold twoIntegers
  split
  · refine (panicless_integerArgument _ 3).bind fun a => ?_
    exact (panicless_integerArgument _ 4).bind fun b => upholds_pure _
  · exact upholds_pure _

theorem panicless_exact (result : ℤ) (position : Position) :
    Panicless p (exact result position) := by
  unfold exact
  split
  · exact upholds_pure _
  · exact upholds_fail (Fault.panicless_arithmetic rfl)

theorem panicless_operand (given : Option Int64) : Panicless p (operand given) := by
  cases given with
  | none => exact panicless_readInteger
  | some n => exact upholds_pure n

theorem panicless_withOperands (given : Option (Int64 × Int64))
    {compute : Int64 → Int64 → Routine Body Unit} (h : ∀ a b, Panicless p (compute a b)) :
    Panicless p (withOperands given compute) := by
  refine (panicless_pausePoint 3 (by decide)).bind fun _ => ?_
  refine (panicless_operand _).bind fun a => (panicless_writeScalar _ _).bind fun _ => ?_
  refine (panicless_pausePoint 4 (by decide)).bind fun _ => ?_
  refine (panicless_operand _).bind fun b => (panicless_writeScalar _ _).bind fun _ => ?_
  exact (panicless_pausePoint 5 (by decide)).bind fun _ => h a b

theorem panicless_addition (a b : Int64) : Panicless p (addition a b) := by
  refine (panicless_exact _ _).bind fun total => (panicless_writeScalar _ _).bind fun _ => ?_
  refine (panicless_pausePoint 6 (by decide)).bind fun _ => (panicless_write _).bind fun _ => ?_
  exact (panicless_write _).bind fun _ => panicless_write _

theorem panicless_division (a b : Int64) : Panicless p (division a b) := by
  have hquotient : Panicless p (quotient a b ⟨5, 11⟩) := by
    unfold quotient
    split_ifs
    · exact upholds_fail (Fault.panicless_arithmetic rfl)
    · exact panicless_exact _ _
  exact hquotient.bind fun q => (panicless_write _).bind fun _ => panicless_write _

theorem panicless_sumRoutine (args : List String) : Panicless p (sumRoutine args) := by
  rw [sumRoutine_eq]
  refine (panicless_declareScalar _).bind fun _ => (panicless_declareScalar _).bind fun _ => ?_
  refine (panicless_declareScalar _).bind fun _ => (panicless_twoIntegers args).bind fun given => ?_
  exact panicless_withOperands given panicless_addition

theorem panicless_divideRoutine : Panicless p divideRoutine := by
  rw [divideRoutine_eq]
  refine (panicless_declareScalar _).bind fun _ => (panicless_declareScalar _).bind fun _ => ?_
  exact panicless_withOperands none panicless_division

end Demo

/-! ## At a terminal -/

namespace Terminal

variable {input : List ConsoleLine} {m : List Move} {t : Terminal}

/-- **No execution of the two demos ends in a panic**, whatever is entered and wherever it
pauses. -/
theorem Trail.not_isPanic (hp : p.demo = .sum ∨ p.demo = .divide) (ht : Trail p input m t)
    (hd : t.isDone = true) : ∃ d : Dialogue, Concluded p d m t ∧
      ∃ r, d.result = some r ∧ ¬ r.IsPanic t.system.control.position := by
  have hconcluded := ht.concluded hd
  obtain ⟨result, hresult, -⟩ := hconcluded.outcome
  have hbody : Body.Panicless p p.body := by
    rw [TerminalPlan.body]
    rcases hp with hp | hp <;> rw [hp]
    · exact (Demo.panicless_sumRoutine p.args).body
    · exact Demo.panicless_divideRoutine.body
  obtain ⟨d, hdialogue, hrecites, -⟩ := p.exists_recites input
  refine ⟨_, hconcluded, _, hresult, ?_⟩
  rw [(ht.system_eq hd).1]
  rw [hdialogue] at hresult ⊢
  refine hbody d ?_ _ hresult
  rw [hrecites.position]
  exact (show (0 : UInt32) ≠ 1 by decide)

end Terminal

end RunControl
