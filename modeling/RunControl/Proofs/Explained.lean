import RunControl.Proofs.Dialogue

/-!
# A demo that fails says why

A diagnostic has a message, unless the body itself brings one without. No demo does.

* `RunResult.Explained`: the result has a diagnostic exactly if the run failed, with a message;
* `Routine.Upholds`: a piece of a body that leaves a property of bodies alone. Its rules follow the
  ways in which routines are put together;
* `Routine.Explains`: a piece of a body that brings no diagnostic without a message;
* **`TerminalPlan.explained`**: the result of every dialogue is explained.
-/

namespace RunControl

/-- The fault brings no diagnostic without a message. -/
def Fault.Explains (f : Fault) : Prop := ∀ d, f = .diagnostic d → d.message ≠ ""

/-- Exactly a run that failed has a diagnostic, and that has a message. -/
structure RunResult.Explained (r : RunResult) : Prop where
  diagnosed : r.error.isSome = true ↔ r.termination = .error
  message : ∀ d, r.error = some d → d.message ≠ ""

/-- The result is explained, if there is one. -/
def Dialogue.Explained (d : Dialogue) : Prop := ∀ r, d.result = some r → r.Explained

/-- However the dialogue with the body began, its result is explained. -/
def Body.Explains (p : TerminalPlan) (b : Body) : Prop :=
  ∀ d : Dialogue, (b.perform p d).Explained

/-- What follows the routine explains its result if it does so after every value and after every
fault that brings no empty message. -/
def Routine.Explains {α : Type} (p : TerminalPlan) (r : Routine Body α) : Prop :=
  ∀ ok err, (∀ a, Body.Explains p (ok a)) → (∀ f : Fault, f.Explains → Body.Explains p (err f)) →
    Body.Explains p (r ok err)

/-! ## Results -/

theorem append_ne_empty {s t : String} (h : s ≠ "") : s ++ t ≠ "" := by
  rw [Ne, String.append_eq_empty_iff]
  exact fun he => h he.1

theorem RuntimeFault.indexMessage_ne_empty (f : RuntimeFault) : f.indexMessage ≠ "" := by
  unfold indexMessage
  split
  · exact append_ne_empty (append_ne_empty (by decide))
  · exact append_ne_empty (append_ne_empty (append_ne_empty (by decide)))
  · exact append_ne_empty (append_ne_empty (by decide))
  · decide

theorem Diagnostic.unhandled_message_ne_empty (detail : String) :
    (unhandled detail).message ≠ "" :=
  append_ne_empty (by decide)

theorem Translator.exists_arithmetic (f : RuntimeFault) (program : ProgramInfo)
    (position : Position) : ∃ d, arithmetic f program position = .ok d ∧ d.message ≠ "" := by
  refine ⟨_, rfl, ?_⟩
  split
  · exact (show "Division by zero is not allowed" ≠ "" by decide)
  · exact append_ne_empty (by decide)

theorem Translators.exists_translate {t : Translators} {f : RuntimeFault} {program : ProgramInfo}
    (last : Position) (h : ∀ translator, t.find? f.category = some translator → ∀ position, ∃ d,
      translator f program position = .ok d ∧ d.message ≠ "") :
    ∃ d, t.translate f program last = .ok d ∧ d.message ≠ "" := by
  unfold translate
  cases hfind : t.find? f.category with
  | none => exact ⟨_, rfl, Diagnostic.unhandled_message_ne_empty f.display⟩
  | some translator =>
    obtain ⟨d, hd, hmessage⟩ :=
      h translator hfind ⟨f.line.getD last.line, f.column.getD last.column⟩
    simp only [hd]
    exact ⟨_, rfl, hmessage⟩

theorem Translators.exists_translate_standard (f : RuntimeFault) (program : ProgramInfo)
    (last : Position) : ∃ d, standard.translate f program last = .ok d ∧ d.message ≠ "" := by
  refine exists_translate last fun translator hfind position => ?_
  cases hcategory : f.category with
  | indexOutOfBounds =>
    rw [hcategory] at hfind
    obtain rfl : Translator.index = translator := Option.some.inj hfind
    exact ⟨_, rfl, f.indexMessage_ne_empty⟩
  | arithmetic =>
    rw [hcategory] at hfind
    obtain rfl : Translator.arithmetic = translator := Option.some.inj hfind
    exact Translator.exists_arithmetic f program position
  | _ =>
    rw [hcategory] at hfind
    cases hfind

theorem RunResult.explained_failed {d : Diagnostic} (last : Position) (h : d.message ≠ "")
    (elapsed : ℕ) : (failed (d.fillPosition last) elapsed).Explained := by
  refine ⟨iff_of_true rfl rfl, fun d' hd => ?_⟩
  obtain rfl := Option.some.inj hd
  exact h

theorem RunResult.exists_explained {outcome : Except Fault Unit} (program : ProgramInfo)
    (last : Position) (elapsed : ℕ) (h : ∀ f, outcome = .error f → f.Explains) :
    ∃ r, ofOutcome Translators.standard program last elapsed outcome = .ok r ∧ r.Explained := by
  cases outcome with
  | ok => exact ⟨normal elapsed, rfl, by simp [normal], by rintro d ⟨⟩⟩
  | error f =>
    cases f with
    | interrupted => exact ⟨interrupted elapsed, rfl, by simp [interrupted], by rintro d ⟨⟩⟩
    | runtime f =>
      obtain ⟨d, hd, hmessage⟩ := Translators.exists_translate_standard f program last
      refine ⟨failed (d.fillPosition last) elapsed, ?_, explained_failed last hmessage elapsed⟩
      simp only [ofOutcome, Fault.diagnostic?, hd]
      rfl
    | diagnostic d => exact ⟨_, rfl, explained_failed last (h _ rfl d rfl) elapsed⟩
    | outOfMemory =>
      have hmessage : Diagnostic.outOfMemory.message ≠ "" := by decide
      exact ⟨_, rfl, explained_failed last hmessage elapsed⟩
    | stackOverflow =>
      have hmessage : Diagnostic.stackOverflow.message ≠ "" := by decide
      exact ⟨_, rfl, explained_failed last hmessage elapsed⟩
    | library e =>
      have hdisplay : e.display ≠ "" :=
        append_ne_empty (append_ne_empty (append_ne_empty (by decide)))
      exact ⟨_, rfl, explained_failed (d := .unplaced .library e.display) last hdisplay elapsed⟩
    | panic message =>
      exact ⟨_, rfl, explained_failed last (Diagnostic.unhandled_message_ne_empty message) elapsed⟩

variable {p : TerminalPlan} {d : Dialogue} {α β : Type}

theorem RunResult.Explained.timeless {r : RunResult} (h : r.Explained) : r.timeless.Explained :=
  ⟨h.diagnosed, h.message⟩

theorem Dialogue.explained_conclude {outcome : Except Fault Unit}
    (h : ∀ f, outcome = .error f → f.Explains) : (d.conclude p outcome).Explained := by
  obtain ⟨r, hr, hexplained⟩ := RunResult.exists_explained p.setup.info d.control.position 0 h
  intro r' hr'
  have htranslators : p.setup.translators = Translators.standard := rfl
  simp only [conclude, htranslators, hr] at hr'
  obtain rfl := Option.some.inj hr'
  exact hexplained.timeless

/-! ## Answers -/

theorem Fault.explains_of_ne {f : Fault} (h : ∀ d, f ≠ .diagnostic d) : f.Explains :=
  fun d hd => absurd hd (h d)

theorem Fault.explains_runtime (f : RuntimeFault) : (Fault.runtime f).Explains :=
  explains_of_ne (by simp)

theorem Fault.explains_interrupted : Fault.interrupted.Explains := explains_of_ne (by simp)

theorem Fault.explains_invalidInput (type : DataType) : (invalidInput type).Explains := by
  intro d hd
  obtain rfl := Fault.diagnostic.inj hd
  exact append_ne_empty (by decide)

theorem Control.explains_takeAnswer {c : Control} {type : DataType} {f : Fault}
    (h : (c.takeAnswer type).2 = .error f) : f.Explains := by
  have hinvalid (h : (Except.error (Fault.invalidInput type) : Except Fault Value) = .error f) :
      f.Explains := Except.error.inj h ▸ Fault.explains_invalidInput type
  unfold takeAnswer at h
  split at h
  · obtain rfl := Except.error.inj h
    exact Fault.explains_interrupted
  · simp only at h
    split at h
    · split at h
      · exact hinvalid h
      · split at h
        · cases h
        · exact hinvalid h
    · exact hinvalid h

theorem Dialogue.explains_verdict {f : Fault} (h : d.verdict = .error f) : f.Explains := by
  unfold verdict at h
  split_ifs at h
  obtain rfl := Except.error.inj h
  exact Fault.explains_interrupted

/-! ## Routines -/

namespace Routine

section Upholds

variable {P : Body → Prop} {Q : Fault → Prop}

/-- What follows the routine has the property if it has it after every value and after every fault
of this sort. -/
def Upholds (P : Body → Prop) (Q : Fault → Prop) (r : Routine Body α) : Prop :=
  ∀ ok err, (∀ a, P (ok a)) → (∀ f, Q f → P (err f)) → P (r ok err)

theorem upholds_pure (a : α) : Upholds P Q (pure a) := fun _ _ hok _ => hok a

theorem Upholds.bind {r : Routine Body α} {f : α → Routine Body β} (hr : Upholds P Q r)
    (hf : ∀ a, Upholds P Q (f a)) : Upholds P Q (r >>= f) := fun ok err hok herr =>
  hr _ err (fun a => hf a ok err hok herr) herr

theorem upholds_fail {f : Fault} (h : Q f) : Upholds P Q (fail f : Routine Body α) :=
  fun _ _ _ herr => herr f h

/-- A call goes on as it should if it does so after every answer it can get. -/
theorem upholds_lift {call : (Except Fault α → Body) → Call Body}
    (h : ∀ next, (∀ answer, (∀ f, answer = .error f → Q f) → P (next answer)) →
      P (.ask (call next))) : Upholds P Q (lift call) := by
  intro ok err hok herr
  refine h _ fun answer hanswer => ?_
  cases answer with
  | ok a => exact hok a
  | error f => exact herr f (hanswer f rfl)

theorem Upholds.readInteger (hread : Upholds P Q (read .integer))
    (hinvalid : Q (Fault.invalidInput .integer)) : Upholds P Q readInteger := by
  refine hread.bind fun v => ?_
  cases v with
  | integer n => exact upholds_pure n
  | _ => exact upholds_fail hinvalid

end Upholds

theorem explains_pure (a : α) : Explains p (pure a) := upholds_pure a

theorem Explains.bind {r : Routine Body α} {f : α → Routine Body β} (hr : Explains p r)
    (hf : ∀ a, Explains p (f a)) : Explains p (r >>= f) := Upholds.bind hr hf

theorem explains_fail {f : Fault} (h : f.Explains) : Explains p (fail f : Routine Body α) :=
  upholds_fail h

theorem explains_lift {call : (Except Fault α → Body) → Call Body}
    (h : ∀ next, (∀ answer, (∀ f, answer = .error f → Fault.Explains f) →
      Body.Explains p (next answer)) → Body.Explains p (.ask (call next))) :
    Explains p (lift call) := upholds_lift h

theorem explains_ok {a : α} : ∀ f, Except.ok a = .error f → Fault.Explains f := by
  rintro f ⟨⟩

theorem explains_error_interrupted :
    ∀ f, (Except.error .interrupted : Except Fault α) = .error f → Fault.Explains f := by
  rintro f ⟨⟩
  exact Fault.explains_interrupted

theorem explains_pausePoint (line column : UInt32) : Explains p (pausePoint line column) := by
  refine explains_lift fun next hnext d => ?_
  simp only [Body.perform]
  split
  · exact hnext _ explains_error_interrupted _
  · exact hnext _ explains_ok _
  · exact hnext _ (fun _ => Dialogue.explains_verdict) _

theorem explains_checkInterrupted : Explains p checkInterrupted := by
  refine explains_lift fun next hnext d => ?_
  simp only [Body.perform]
  exact hnext _ (fun _ => Dialogue.explains_verdict) _

theorem explains_read (type : DataType) : Explains p (read type) := by
  refine explains_lift fun next hnext d => ?_
  simp only [Body.perform]
  split
  · exact hnext _ explains_error_interrupted _
  · exact hnext _ (fun _ => Control.explains_takeAnswer) _

theorem explains_readInteger : Explains p readInteger :=
  Upholds.readInteger (explains_read .integer) (Fault.explains_invalidInput .integer)

theorem explains_write (v : Value) : Explains p (write v) := by
  refine explains_lift fun next hnext d => ?_
  simp only [Body.perform]
  exact hnext _ explains_ok _

theorem explains_change (c : Snapshot.Change) : Explains p (change c) := by
  intro ok err hok herr d
  simp only [change, Asks.ask, Body.perform]
  split_ifs
  · exact Dialogue.explained_conclude fun f hf => by
      obtain rfl := Except.error.inj hf
      exact Fault.explains_of_ne (by rintro _ ⟨⟩)
  · exact hok () _

theorem explains_forM {f : α → Routine Body PUnit} (h : ∀ a, Explains p (f a)) (as : List α) :
    Explains p (as.forM f) := by
  induction as with
  | nil => exact explains_pure _
  | cons a as ih => exact (h a).bind fun _ => ih

theorem Explains.body {r : Routine Body Unit} (h : Explains p r) : Body.Explains p r.body := by
  refine h _ _ (fun _ d => ?_) fun f hf d => ?_
  · simp only [Asks.ask, Body.perform]
    exact Dialogue.explained_conclude fun f hf => by cases hf
  · simp only [Asks.ask, Body.perform]
    exact Dialogue.explained_conclude fun f' hf' => by
      obtain rfl := Except.error.inj hf'
      exact hf

end Routine

/-! ## The demos -/

namespace Demo

open Routine

theorem explains_integerArgument (arg : String) (line : UInt32) :
    Explains p (integerArgument arg line) := by
  unfold integerArgument
  split
  · exact explains_pure _
  · exact explains_fail (Fault.explains_runtime _)

theorem explains_exact (result : ℤ) (position : Position) : Explains p (exact result position) := by
  unfold exact
  split
  · exact explains_pure _
  · exact explains_fail (Fault.explains_runtime _)

theorem explains_quotient (a b : Int64) (position : Position) :
    Explains p (quotient a b position) := by
  unfold quotient
  split_ifs
  · exact explains_fail (Fault.explains_runtime _)
  · exact explains_exact _ _

theorem explains_twoIntegers (args : List String) : Explains p (twoIntegers args) := by
  unfold twoIntegers
  split
  · refine (explains_integerArgument _ 3).bind fun a => ?_
    refine (explains_integerArgument _ 4).bind fun b => ?_
    exact explains_pure _
  · exact explains_pure _

theorem explains_sumRoutine (args : List String) : Explains p (sumRoutine args) := by
  refine (explains_forM (fun id => explains_change _) _).bind fun _ => ?_
  refine (explains_twoIntegers args).bind fun given => ?_
  refine (explains_pausePoint 3 3).bind fun _ => ?_
  extract_lets first
  have hfirst (a : Int64) : Explains p (first a) := by
    refine (explains_change _).bind fun _ => ?_
    refine (explains_pausePoint 4 3).bind fun _ => ?_
    extract_lets second
    have hsecond (b : Int64) : Explains p (second b) := by
      refine (explains_change _).bind fun _ => ?_
      refine (explains_pausePoint 5 3).bind fun _ => ?_
      refine (explains_exact _ _).bind fun total => ?_
      refine (explains_change _).bind fun _ => ?_
      refine (explains_pausePoint 6 3).bind fun _ => ?_
      refine (explains_write _).bind fun _ => ?_
      exact (explains_write _).bind fun _ => explains_write _
    cases given with
    | none => exact explains_readInteger.bind hsecond
    | some ab => exact (explains_pure _).bind hsecond
  cases given with
  | none => exact explains_readInteger.bind hfirst
  | some ab => exact (explains_pure _).bind hfirst

theorem explains_countdownRoutine (args : List String) : Explains p (countdownRoutine args) := by
  refine (explains_pausePoint 2 3).bind fun _ => ?_
  extract_lets start
  have hstart (n : Int64) : Explains p (start n) := by
    unfold start
    extract_lets length count
    have hcount (u : PUnit) : Explains p (count u) := by
      refine (explains_change _).bind fun _ => ?_
      refine (explains_change _).bind fun _ => ?_
      refine (explains_pausePoint 3 3).bind fun _ => ?_
      refine (explains_change _).bind fun _ => ?_
      refine (explains_forM (fun i => ?_) _).bind fun _ => ?_
      · refine explains_checkInterrupted.bind fun _ => ?_
        refine (explains_pausePoint 4 3).bind fun _ => ?_
        refine (explains_pausePoint 5 5).bind fun _ => ?_
        refine (explains_change _).bind fun _ => ?_
        refine (explains_pausePoint 6 5).bind fun _ => ?_
        exact (explains_write _).bind fun _ => explains_write _
      · exact (explains_pausePoint 8 3).bind fun _ => explains_write _
    split_ifs
    · exact (explains_fail (Fault.explains_runtime _)).bind hcount
    · exact hcount ()
  cases args with
  | nil => exact (explains_pure _).bind hstart
  | cons arg args => exact (explains_integerArgument arg 2).bind hstart

theorem explains_divideRoutine : Explains p divideRoutine := by
  refine (explains_change _).bind fun _ => ?_
  refine (explains_change _).bind fun _ => ?_
  refine (explains_pausePoint 3 3).bind fun _ => ?_
  refine explains_readInteger.bind fun a => ?_
  refine (explains_change _).bind fun _ => ?_
  refine (explains_pausePoint 4 3).bind fun _ => ?_
  refine explains_readInteger.bind fun b => ?_
  refine (explains_change _).bind fun _ => ?_
  refine (explains_pausePoint 5 3).bind fun _ => ?_
  refine (explains_quotient a b _).bind fun q => ?_
  exact (explains_write _).bind fun _ => explains_write _

theorem explains_boundsRoutine : Explains p boundsRoutine := by
  refine (explains_pausePoint 2 3).bind fun _ => ?_
  refine (explains_change _).bind fun _ => ?_
  refine (explains_forM (fun value => explains_change _) _).bind fun _ => ?_
  refine (explains_pausePoint 3 3).bind fun _ => ?_
  refine (explains_change _).bind fun _ => ?_
  refine (explains_change _).bind fun _ => ?_
  refine (explains_pausePoint 4 3).bind fun _ => ?_
  split
  · exact (explains_write _).bind fun _ => explains_write _
  · exact explains_fail (Fault.explains_runtime _)

theorem explains_gridRoutine : Explains p gridRoutine := by
  refine (explains_pausePoint 2 3).bind fun _ => ?_
  refine (explains_change _).bind fun _ => ?_
  refine (explains_forM (fun row => ?_) _).bind fun _ => ?_
  · refine (explains_pausePoint 3 3).bind fun _ => explains_forM (fun col => ?_) _
    refine (explains_pausePoint 4 5).bind fun _ => ?_
    exact (explains_pausePoint 5 7).bind fun _ => explains_change _
  · refine (explains_pausePoint 8 3).bind fun _ => ?_
    exact (explains_write _).bind fun _ => explains_write _

theorem explains_routine (demo : Demo) (args : List String) :
    Explains p (demo.routine args) := by
  cases demo with
  | sum => exact explains_sumRoutine args
  | countdown => exact explains_countdownRoutine args
  | divide => exact explains_divideRoutine
  | bounds => exact explains_boundsRoutine
  | grid => exact explains_gridRoutine

end Demo

/-- **Exactly a demo that failed has a diagnostic, and it has a message.** -/
theorem TerminalPlan.explained (p : TerminalPlan) (input : List ConsoleLine) :
    (p.dialogue input).Explained :=
  (p.demo.explains_routine p.args).body _

end RunControl
