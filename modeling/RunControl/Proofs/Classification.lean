import Mathlib.Tactic.Common
import RunControl.Fault.Classification

/-!
# What the result of a run says of its outcome

* `Registered`, **`Translators.find?_ofList`**: which of several registrations is in use;
* `Fault.Reports`: the diagnostic of a fault, with its own position, whatever its translator does;
* `RunResult.judge`, with `judge_of_ok` and `judge_of_error`: the result of an outcome, or that of
  the panic of a translator;
* **`verdict_judge`**: what is read off the result.
-/

namespace RunControl

variable {registrations : List (FaultClass × Translator)} {category : FaultClass}
  {translator : Translator} {program : ProgramInfo} {last : Position}

/-! ## Registrations -/

/-- The latest registration for the class is that of the translator. -/
def Registered (registrations : List (FaultClass × Translator)) (category : FaultClass)
    (translator : Translator) : Prop :=
  ∃ before after, registrations = before ++ (category, translator) :: after ∧
    ∀ e ∈ after, e.1 ≠ category

namespace Translators

theorem entries_ofList (registrations : List (FaultClass × Translator)) :
    (ofList registrations).entries = registrations.reverse := by
  have hfold : ∀ (entries : List (FaultClass × Translator)) (t : Translators),
      (entries.foldl (fun t e => t.register e.1 e.2) t).entries =
        entries.reverse ++ t.entries := by
    intro entries
    induction entries with
    | nil => exact fun t => rfl
    | cons e entries ih =>
      intro t
      rw [List.foldl_cons, ih, List.reverse_cons, List.append_assoc]
      rfl
  rw [ofList, hfold]
  exact List.append_nil _

/-- **The latest registration for a class is in use.** -/
theorem find?_ofList :
    (ofList registrations).find? category = some translator ↔
      Registered registrations category translator := by
  rw [find?, entries_ofList, Option.map_eq_some_iff]
  constructor
  · rintro ⟨⟨c, t⟩, hfind, rfl⟩
    obtain ⟨hc, after, before, hsplit, hafter⟩ := List.find?_eq_some_iff_append.1 hfind
    obtain rfl : c = category := by simpa using hc
    refine ⟨before.reverse, after.reverse, ?_, fun e he => ?_⟩
    · simpa using congrArg List.reverse hsplit
    · simpa using hafter e (List.mem_reverse.1 he)
  · rintro ⟨before, after, rfl, hafter⟩
    refine ⟨(category, translator), List.find?_eq_some_iff_append.2 ?_, rfl⟩
    exact ⟨by simp, after.reverse, before.reverse, by simp, fun e he => by
      simpa using hafter e (List.mem_reverse.1 he)⟩

theorem find?_ofList_eq_none_iff :
    (ofList registrations).find? category = none ↔ ∀ e ∈ registrations, e.1 ≠ category := by
  simp [find?, entries_ofList]

end Translators

/-! ## The diagnostic of a fault -/

/-- The position with which a translator is called. -/
def RuntimeFault.position (f : RuntimeFault) (last : Position) : Position :=
  ⟨f.line.getD last.line, f.column.getD last.column⟩

/-- The diagnostic of a fault, or the panic of its translator, before coordinates that are still
unknown are filled. -/
def Translators.draft (t : Translators) (f : RuntimeFault) (program : ProgramInfo)
    (last : Position) : Except Payload Diagnostic :=
  match t.find? f.category with
  | some translator => translator f program (f.position last)
  | none => .ok ((Diagnostic.unhandled f.display).place (f.position last))

theorem Translators.translate_eq (t : Translators) (f : RuntimeFault) :
    t.translate f program last = (t.draft f program last).map fun d => d.fillPosition last := rfl

/-- The diagnostic with which a fault ends a run, before coordinates that are still unknown are
filled. A translator that panics tears the fault. -/
inductive Fault.Reports (registrations : List (FaultClass × Translator)) (program : ProgramInfo)
    (last : Position) : Fault → Diagnostic → Prop
  | outOfMemory : Reports registrations program last .outOfMemory ⟨.outOfMemory, .unknown,
      "The program ran out of memory. Check for data structures that grow without bound."⟩
  | stackOverflow : Reports registrations program last .stackOverflow ⟨.stackOverflow, .unknown,
      "Stack overflow. This usually means a function calls itself without reaching a stopping " ++
        "condition."⟩
  | translated {f : RuntimeFault} {translator : Translator} {d : Diagnostic} :
    Registered registrations f.category translator →
    translator f program (f.position last) = .ok d →
      Reports registrations program last (.runtime f) d
  | torn {f : RuntimeFault} {translator : Translator} {payload : Payload} :
    Registered registrations f.category translator →
    translator f program (f.position last) = .error payload →
      Reports registrations program last (.runtime f) ⟨.unhandled, .unknown,
        "An unhandled error occurred during execution: " ++ payload.message⟩
  | unregistered {f : RuntimeFault} : (∀ e ∈ registrations, e.1 ≠ f.category) →
    Reports registrations program last (.runtime f) ⟨.unhandled, f.position last,
      "An unhandled error occurred during execution: " ++
        (f.category.describe ++ ": " ++ f.message)⟩
  | diagnostic {d : Diagnostic} : Reports registrations program last (.diagnostic d) d
  | library {e : LibraryError} :
    Reports registrations program last (.library e) ⟨.library, .unknown, e.display⟩
  | panic {message : String} : Reports registrations program last (.panic message)
      ⟨.unhandled, .unknown, "An unhandled error occurred during execution: " ++ message⟩

namespace Fault.Reports

variable {fault : Fault} {d d' : Diagnostic}

theorem eq (h : fault.Reports registrations program last d)
    (h' : fault.Reports registrations program last d') : d' = d := by
  have hone : ∀ {c : FaultClass} {t t' : Translator}, Registered registrations c t →
      Registered registrations c t' → t = t' := fun ht ht' =>
    Option.some.inj ((Translators.find?_ofList.2 ht).symm.trans (Translators.find?_ofList.2 ht'))
  have hnone : ∀ {c : FaultClass} {t : Translator}, Registered registrations c t →
      ¬ ∀ e ∈ registrations, e.1 ≠ c := fun ht hall => by
    cases (Translators.find?_ofList.2 ht).symm.trans (Translators.find?_ofList_eq_none_iff.2 hall)
  cases h with
  | translated ht hd =>
    cases h' with
    | translated ht' hd' =>
      obtain rfl := hone ht ht'
      exact Except.ok.inj (hd'.symm.trans hd)
    | torn ht' hd' =>
      obtain rfl := hone ht ht'
      cases hd.symm.trans hd'
    | unregistered hall => exact absurd hall (hnone ht)
  | torn ht hd =>
    cases h' with
    | translated ht' hd' =>
      obtain rfl := hone ht ht'
      cases hd.symm.trans hd'
    | torn ht' hd' =>
      obtain rfl := hone ht ht'
      obtain rfl := Except.error.inj (hd.symm.trans hd')
      rfl
    | unregistered hall => exact absurd hall (hnone ht)
  | unregistered hall =>
    cases h' with
    | translated ht | torn ht => exact absurd hall (hnone ht)
    | unregistered => rfl
  | _ => cases h'; rfl

end Fault.Reports

/-! ## The result of an outcome -/

@[simp] theorem Diagnostic.fillPosition_fillPosition (d : Diagnostic) (last : Position) :
    (d.fillPosition last).fillPosition last = d.fillPosition last := by
  simp only [fillPosition, place]
  split_ifs <;> simp_all

namespace RunResult

variable {translators : Translators} {elapsed : ℕ} {outcome : Except Fault Unit}
  {result : RunResult} {payload : Payload}

/-- The result of a run whose body stopped with the outcome. If a translator panics, it is that of
the panic. -/
def judge (translators : Translators) (program : ProgramInfo) (last : Position) (elapsed : ℕ)
    (outcome : Except Fault Unit) : RunResult :=
  match ofOutcome translators program last elapsed outcome with
  | .ok result => result
  | .error payload => ofPanic payload.message last elapsed

@[simp] theorem judge_ok :
    judge translators program last elapsed (.ok ()) = normal elapsed := rfl

@[simp] theorem judge_interrupted :
    judge translators program last elapsed (.error .interrupted) = interrupted elapsed := rfl

theorem judge_runtime (f : RuntimeFault) :
    judge translators program last elapsed (.error (.runtime f)) =
      match translators.draft f program last with
      | .ok d => failed (d.fillPosition last) elapsed
      | .error payload => ofPanic payload.message last elapsed := by
  -- coordinates that are unknown are filled twice
  rw [judge, ofOutcome, Fault.diagnostic?, Translators.translate_eq]
  cases translators.draft f program last with
  | ok d => exact congrArg (failed · elapsed) (d.fillPosition_fillPosition last)
  | error payload => rfl

theorem judge_of_ok (h : ofOutcome translators program last elapsed outcome = .ok result) :
    judge translators program last elapsed outcome = result := by
  rw [judge, h]

/-- Whether a translator panics does not depend on the time. -/
theorem judge_of_error (h : ofOutcome translators program last elapsed outcome = .error payload)
    (elapsed' : ℕ) : judge translators program last elapsed' outcome =
      ofPanic payload.message last elapsed' := by
  cases outcome with
  | ok u => cases h
  | error fault =>
    simp only [ofOutcome] at h
    cases hd : fault.diagnostic? translators program last with
    | ok d =>
      rw [hd] at h
      cases h
    | error payload' =>
      rw [hd] at h
      obtain rfl := Except.error.inj h
      simp only [judge, ofOutcome, hd]
      rfl

end RunResult

/-- What the result of a run says, given the last position of the run and the outcome of its
initialization and body. There is a diagnostic for an error and for nothing else; it has the kind
and the message of the fault, and of its position the coordinates that are known. -/
structure Verdict (registrations : List (FaultClass × Translator)) (program : ProgramInfo)
    (last : Position) (outcome : Except Fault Unit) (result : RunResult) : Prop where
  normal : result.termination = .normal ↔ outcome = .ok ()
  interrupted : result.termination = .interrupted ↔ outcome = .error .interrupted
  error : result.error.isSome = true ↔ result.termination = .error
  reports : ∀ fault, outcome = .error fault → fault ≠ .interrupted →
    ∃ d, (∀ d', fault.Reports registrations program last d' ↔ d' = d) ∧
      result.error = some
        { kind := d.kind
          message := d.message
          position :=
            { line := if d.position.line ≠ 0 then d.position.line else last.line
              column := if d.position.column ≠ 0 then d.position.column else last.column } }

namespace Verdict

theorem of_reports {fault : Fault} {d : Diagnostic} {elapsed : ℕ} (hf : fault ≠ .interrupted)
    (hd : fault.Reports registrations program last d) :
    Verdict registrations program last (.error fault) (.failed (d.fillPosition last) elapsed) where
  normal := by simp [RunResult.failed]
  interrupted := by simpa [RunResult.failed] using hf
  error := by simp [RunResult.failed]
  reports f h _ := by
    obtain rfl := Except.error.inj h
    refine ⟨d, fun d' => ⟨fun h => hd.eq h, fun h => h ▸ hd⟩, ?_⟩
    simp [RunResult.failed, Diagnostic.fillPosition, Diagnostic.place]

end Verdict

/-- **The verdict on every outcome**, whatever has been registered and whatever the translators
do. -/
theorem verdict_judge (registrations : List (FaultClass × Translator)) (program : ProgramInfo)
    (last : Position) (elapsed : ℕ) (outcome : Except Fault Unit) :
    Verdict registrations program last outcome
      (.judge (.ofList registrations) program last elapsed outcome) := by
  cases outcome with
  | ok u =>
    rw [RunResult.judge_ok]
    exact ⟨by simp [RunResult.normal], by simp [RunResult.normal], by simp [RunResult.normal],
      nofun⟩
  | error fault =>
    cases fault with
    | outOfMemory => exact .of_reports nofun .outOfMemory
    | stackOverflow => exact .of_reports nofun .stackOverflow
    | diagnostic d => exact .of_reports nofun .diagnostic
    | library e => exact .of_reports nofun .library
    | panic message => exact .of_reports nofun .panic
    | interrupted =>
      rw [RunResult.judge_interrupted]
      exact ⟨by simp [RunResult.interrupted], by simp [RunResult.interrupted],
        by simp [RunResult.interrupted], fun f h hf => absurd (Except.error.inj h).symm hf⟩
    | runtime f =>
      cases hfind : (Translators.ofList registrations).find? f.category with
      | none =>
        rw [RunResult.judge_runtime, Translators.draft, hfind]
        exact .of_reports nofun (.unregistered (Translators.find?_ofList_eq_none_iff.1 hfind))
      | some translator =>
        have ht := Translators.find?_ofList.1 hfind
        rw [RunResult.judge_runtime, Translators.draft, hfind]
        dsimp only
        cases hd : translator f program (f.position last) with
        | ok d => exact .of_reports nofun (.translated ht hd)
        | error payload => exact .of_reports nofun (.torn ht hd)

end RunControl
