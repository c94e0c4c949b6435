import RunControl.Proofs.Explained
import RunControl.Proofs.Schema
import RunControl.Proofs.Uncontested

/-!
# Reports for people and reports for programs

A demo is run alike whether its report is a text or a document. Only the streams differ: the
document has the standard output to itself, and all the rest is shown on the error stream.

* `TerminalPlan.dialogue_inFormat`: the form of the report does not decide what is said;
* `Terminal.exists_done`: there is an execution to its end, with every plan and input;
* `Terminal.Rendering`, `Bilingual`: what two executions have in common that differ in the form;
* **`Application.bilingual`**: they have it in common, whatever is requested and entered.
-/

namespace RunControl

/-- All that is shown on a stream. -/
def Ending.textOn (e : Ending) (stream : Stream) : String := String.join (e.output stream)

namespace TerminalPlan

/-- The same plan with another form of the report. -/
def inFormat (p : TerminalPlan) (format : OutputFormat) : TerminalPlan := { p with format }

variable {p : TerminalPlan} {format : OutputFormat}

/-! ## What is said -/

theorem command_inFormat (lines : List ConsoleLine) (d : Dialogue) :
    Dialogue.command (p.inFormat format) lines d = Dialogue.command p lines d := by
  induction lines generalizing d with
  | nil => rfl
  | cons line rest ih =>
    cases line with
    | garbled => rfl
    | text s =>
      rw [Dialogue.command, Dialogue.command]
      cases Command.ofText s with
      | error word => exact ih _
      | ok command => rfl

theorem pause_inFormat (d : Dialogue) (line : UInt32) :
    d.pause (p.inFormat format) line = d.pause p line :=
  command_inFormat _ _

theorem perform_inFormat (b : Body) (d : Dialogue) :
    b.perform (p.inFormat format) d = b.perform p d := by
  induction b using Body.induct generalizing d with
  | h call ih =>
    cases call with
    | finish outcome | panic payload => rfl
    | pausePoint position next =>
      simp only [Body.perform, pause_inFormat]
      split <;> exact ih _ _
    | read type next =>
      simp only [Body.perform]
      split <;> exact ih _ _
    | think next =>
      simp only [Body.perform]
      exact ih _
    | change _ next =>
      simp only [Body.perform]
      split
      · rfl
      · exact ih _
    | checkInterrupted next | write _ next | clear next | query _ next | position next
    | resolve _ next =>
      simp only [Body.perform]
      exact ih _ _

/-- **The form of the report does not decide what is said.** -/
theorem dialogue_inFormat (input : List ConsoleLine) :
    (p.inFormat format).dialogue input = p.dialogue input :=
  perform_inFormat _ _

end TerminalPlan

theorem Application.planOf_inFormat (styled : Bool) (config : Config) (r : RunRequest)
    (format : OutputFormat) : planOf styled config { r with format } =
      (planOf styled config r).map fun p => p.inFormat format := by
  unfold planOf
  cases Demo.ofName? r.demo with
  | none => rfl
  | some demo =>
    simp only
    split <;> rfl

namespace Terminal

variable {p : TerminalPlan} {input : List ConsoleLine}

/-! ## There is an end -/

theorem Trail.exists_done {m : List Move} {t : Terminal} (ht : Trail p input m t) :
    ∃ m' t', Trail p input m' t' ∧ t'.isDone = true := by
  by_cases hd : t.isDone = true
  · exact ⟨m, t, ht, hd⟩
  · have hundone : t.isDone = false := by simpa using hd
    obtain ⟨side, t', hs⟩ := (ht.underway hundone).exists_step 0
    have hnext := ht.cons hundone hs
    have hroom : m.length < p.patience input + 2 * wakes m := by
      have hlength := hnext.length_le
      rwa [wakes_go] at hlength
    exact hnext.exists_done
termination_by p.patience input + 2 * wakes m - m.length
decreasing_by
  -- a worker that wakes up for no reason would only need more patience
  rw [List.length_cons, wakes_go]
  omega

variable {m m' : List Move} {t t' : Terminal} {d : Dialogue} {e : Termination}

theorem Trail.input_eq (ht : Trail p input m t) : t.input = input.drop t.readers.length := by
  obtain hu | ⟨m₀, t₀, -, hu, -, q, result, -, -, -, hc⟩ := ht.cases
  · exact hu.input
  · cases hc <;> exact hu.input

/-! ## What is shown in the end -/

/-- An execution returns a termination exactly if the input can be read to its end. -/
theorem Concluded.loop_iff (hc : Concluded p d m t) : t.loop = .done (.ok e) ↔
    d.failure = none ∧ ∃ result, d.result = some result ∧ result.termination = e := by
  obtain ⟨result, hresult, hloop, -⟩ := hc.outcome
  rw [hloop, hresult]
  cases d.failure with
  | none => simp [RunResult.timeless]
  | some message => simp

theorem Concluded.returned (hc : Concluded p d m t) (hloop : t.loop = .done (.ok e)) :
    ∃ result, d.result = some result.timeless ∧ result.termination = e ∧
      (Application.endOf t).status = e.exitCode ∧
      ∀ stream, (Application.endOf t).textOn stream =
        (if p.stream = stream then String.join d.texts.reverse else "") ++
          if Stream.stdout = stream then p.report result else "" := by
  obtain ⟨hfailure, -⟩ := hc.loop_iff.1 hloop
  obtain ⟨result, hresult, hdone, houtput, hstatus⟩ := hc.outcome
  simp only [hfailure] at hdone hstatus
  obtain rfl : e = result.termination := Except.ok.inj (LoopPoint.done.inj (hloop.symm.trans hdone))
  refine ⟨result, hresult, rfl, hstatus, fun stream => ?_⟩
  rw [Ending.textOn, houtput, TerminalPlan.output, hfailure]
  split_ifs <;> simp [String.join]

/-! ## Two executions -/

/-- What two executions have in common that return a termination, one with the report as a text and
one with the report as a document: all but the reports, and these are on one diagnostic. -/
structure Rendering (p : TerminalPlan) (m : List Move) (t : Terminal) (m' : List Move)
    (t' : Terminal) (e : Termination) : Prop where
  readers : t'.readers = t.readers
  input : t'.input = t.input
  modes : modes m' = modes m
  status : (Application.endOf t').status = (Application.endOf t).status
  reports : ∃ result result' : RunResult, result.termination = e ∧ result'.termination = e ∧
    result'.error = result.error ∧ (result.error.isSome = true ↔ e = .error) ∧
    -- the text shows the diagnostic, with its place if it has one
    (∀ d, result.error = some d → ∃ source, p.reportText result =
      Style.boldRed.paint p.styled "Error:" ++ " " ++ d.message ++ "\n" ++
        if d.position.line = 0 then ""
        else "  at line " ++ Numeral.text d.position.line.toNat ++ ", column " ++
          Numeral.text d.position.column.toNat ++ ": " ++ source ++ "\n") ∧
    (Application.endOf t).textOn .stdout =
      (Application.endOf t').textOn .stderr ++ p.reportText result ∧
    (Application.endOf t).textOn .stderr = "" ∧
    -- the other standard output is one document
    Json.parse? ((Application.endOf t').textOn .stdout) = some result'.toJson ∧
    Schema.executionResult result'.toJson = true ∧
    result'.toJson.exitCode? = some (Application.endOf t').status ∧
    result'.toJson.member? "error" = some (Json.ofOption Diagnostic.toJson result.error)

theorem Concluded.rendering {p' : TerminalPlan} (hp : p.format = .text) (hp' : p'.format = .json)
    (hd : d.Explained) (hc : Concluded p d m t) (hc' : Concluded p' d m' t')
    (hinput : t.input = input.drop t.readers.length)
    (hinput' : t'.input = input.drop t'.readers.length) (hloop : t.loop = .done (.ok e))
    (hloop' : t'.loop = .done (.ok e)) : Rendering p m t m' t' e := by
  obtain ⟨result, hresult, rfl, hstatus, htext⟩ := hc.returned hloop
  obtain ⟨result', hresult', hsame, hstatus', htext'⟩ := hc'.returned hloop'
  -- both executions conclude the same dialogue, and the results differ in the time at most
  have hreaders : t'.readers = t.readers := hc'.readers.trans hc.readers.symm
  have htimeless : result'.timeless = result.timeless :=
    Option.some.inj (hresult'.symm.trans hresult)
  have herror : result'.error = result.error := by
    rw [← result'.timeless_error, htimeless, result.timeless_error]
  have hexplained := hd _ hresult
  have hstream : p.stream = .stdout := by rw [TerminalPlan.stream, hp]
  have hstream' : p'.stream = .stderr := by rw [TerminalPlan.stream, hp']
  have hdocument : (Application.endOf t').textOn .stdout = result'.toJson.pretty ++ "\n" := by
    rw [htext', hstream', if_neg (by decide), if_pos rfl, String.empty_append,
      TerminalPlan.report, hp']
  refine
    { readers := hreaders
      input := by rw [hinput, hinput', hreaders]
      modes := hc'.modes.trans hc.modes.symm
      status := hstatus'.trans hstatus.symm
      reports := ⟨result, result', rfl, hsame, herror, hexplained.diagnosed, ?_, ?_, ?_, ?_, ?_,
        ?_, ?_⟩ }
  · intro d hd
    have hdiagnosed : result.timeless.error.isSome = true := by
      rw [result.timeless_error, hd]
      rfl
    exact TerminalPlan.reportText_of_error (hexplained.diagnosed.1 hdiagnosed) hd
  · rw [htext, htext', hstream, hstream', TerminalPlan.report, hp]
    simp
  · rw [htext, hstream, if_neg (by decide), if_neg (by decide), String.empty_append]
  · rw [hdocument]
    exact result'.parse?_toJson
  · rw [Schema.executionResult_toJson, herror]
    exact hexplained.message
  · rw [Json.exitCode?_toJson, hsame, hstatus']
  · rw [Json.member?_error_toJson, herror]

end Terminal

/-- What is common to the executions with two plans, one with the report as a text and one with the
report as a document. There are executions to the end; one returns a termination exactly if the
other one does, and then they have all but the reports in common. -/
structure Bilingual (p p' : TerminalPlan) (input : List ConsoleLine) : Prop where
  ends : ∃ m t, Terminal.Trail p input m t ∧ t.isDone = true
  ends' : ∃ m t, Terminal.Trail p' input m t ∧ t.isDone = true
  returns : ∀ {m t m' t'}, Terminal.Trail p input m t → t.isDone = true →
    Terminal.Trail p' input m' t' → t'.isDone = true →
    ∀ e, t.loop = .done (.ok e) ↔ t'.loop = .done (.ok e)
  rendering : ∀ {m t m' t' e}, Terminal.Trail p input m t → t.loop = .done (.ok e) →
    Terminal.Trail p' input m' t' → t'.loop = .done (.ok e) → Terminal.Rendering p m t m' t' e

theorem TerminalPlan.bilingual_inFormat (p : TerminalPlan) (input : List ConsoleLine) :
    Bilingual (p.inFormat .text) (p.inFormat .json) input := by
  have hconcluded {format m t} (ht : Terminal.Trail (p.inFormat format) input m t)
      (hd : t.isDone = true) : Terminal.Concluded (p.inFormat format) (p.dialogue input) m t :=
    p.dialogue_inFormat input ▸ ht.concluded hd
  have hdone {t : Terminal} {e} (hloop : t.loop = .done (.ok e)) : t.isDone = true := by
    rw [Terminal.isDone, hloop]
  exact
    { ends := Terminal.Trail.nil.exists_done
      ends' := Terminal.Trail.nil.exists_done
      returns := fun ht hd ht' hd' e => by
        rw [(hconcluded ht hd).loop_iff, (hconcluded ht' hd').loop_iff]
      rendering := fun ht hloop ht' hloop' =>
        (hconcluded ht (hdone hloop)).rendering rfl rfl (p.explained input)
          (hconcluded ht' (hdone hloop')) ht.input_eq ht'.input_eq hloop hloop' }

/-- **A request is dealt with alike, whether its report is to be a text or a document.** -/
theorem Application.bilingual (styled : Bool) (config : Config) (r : RunRequest)
    (input : List ConsoleLine) {p p' : TerminalPlan}
    (hp : planOf styled config { r with format := .text } = .ok p)
    (hp' : planOf styled config { r with format := .json } = .ok p') : Bilingual p p' input := by
  rw [planOf_inFormat] at hp hp'
  cases hplan : planOf styled config r with
  | error e =>
    rw [hplan] at hp
    cases hp
  | ok p₀ =>
    rw [hplan] at hp hp'
    obtain rfl := Except.ok.inj hp
    obtain rfl := Except.ok.inj hp'
    exact p₀.bilingual_inFormat input

namespace Application

/-- Divide six by zero, and pause everywhere. -/
def divisionRequest : RunRequest := ⟨"divide", none, true, .text, none, []⟩

/-- The two numbers are asked for, and the program is resumed at every pause. -/
def divisionInput : List ConsoleLine :=
  ["", "6", "step", "?", "0", "r"].map ConsoleLine.text

theorem bilingual_division : ∃ p p' : TerminalPlan,
    planOf false Config.standard { divisionRequest with format := .text } = .ok p ∧
      planOf false Config.standard { divisionRequest with format := .json } = .ok p' ∧
      Bilingual p p' divisionInput :=
  ⟨_, _, rfl, rfl, bilingual false Config.standard divisionRequest divisionInput rfl rfl⟩

end Application

end RunControl
