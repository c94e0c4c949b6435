import RunControl.Proofs.Answer
import RunControl.Proofs.Conversion
import RunControl.Proofs.ReadWindow

/-!
# The arbitration of a read

A read ends by a settlement of its handle, by a resume or by an interrupt. These may come together
and in any order, and the handles of earlier reads may be settled meanwhile.

* `ReadAnswer`: the answer that a read owes to what has come since it was opened;
* **`ReadTells.answer`**: the state of the read leads to this answer;
* `Answered`, `Trail.readStage`: how a read goes on, and how it ends;
* **`Trail.arbitration`**: what a call of a read comes to, in every run.
-/

namespace RunControl

variable {κ : Type} {setup : Setup κ} {s s₀ s₁ s₂ s' : System κ} {m p : List (Moment κ)}
  {l : Label κ} {run : RunId} {ask : Ask κ} {type : DataType} {ticket : UInt64}

/-! ## The answer -/

/-- Nothing has come that ends a read. -/
def isUnanswered (ticket : UInt64) (m : List (Moment κ)) : Bool :=
  m.all Moment.isQuiet && (settlements ticket m).isEmpty

/-- The answer of a read of the given type whose handle has the ticket, after the steps `m`. The
handle is settled at most once. A value is the answer when it has been settled by one that converts
to it, and no resume has come, before or after. A typed reader has nothing to refuse. -/
structure ReadAnswer (type : DataType) (ticket : UInt64) (m : List (Moment κ))
    (answer : Except Fault Value) : Prop where
  once : (settlements ticket m).length ≤ 1
  interrupted : answer = .error .interrupted ↔ m.any Moment.interrupts = true
  ok : ∀ w, answer = .ok w ↔ m.any Moment.interrupts = false ∧ m.any Moment.resumes = false ∧
    ∃ v, settlements ticket m = [some v] ∧ v.coerce type = some w
  otherwise : answer ≠ .error .interrupted → (∀ w, answer ≠ .ok w) →
    answer = .error (Fault.invalidInput type)
  type_eq : ∀ w, answer = .ok w → w.type = type
  typed : (answer.bind fun v => v.typed type) = answer

theorem ReadAnswer.of_interrupted (hone : (settlements ticket m).length ≤ 1)
    (hi : m.any Moment.interrupts = true) :
    ReadAnswer type ticket m (.error .interrupted) := by
  refine ⟨hone, by simp [hi], fun w => by simp [hi], fun h => absurd rfl h, ?_, rfl⟩
  rintro w ⟨⟩

theorem ReadAnswer.of_refused (hone : (settlements ticket m).length ≤ 1)
    (hi : m.any Moment.interrupts = false)
    (hw : m.any Moment.resumes = false → ∀ v w, settlements ticket m = [some v] →
      v.coerce type ≠ some w) :
    ReadAnswer type ticket m (.error (Fault.invalidInput type)) := by
  refine ⟨hone, by simp [hi, Fault.invalidInput], fun w => ?_, fun _ _ => rfl, ?_, rfl⟩
  · simp only [reduceCtorEq, false_iff, not_and, not_exists]
    exact fun _ hr v hv => hw hr v w hv
  · rintro w ⟨⟩

theorem ReadAnswer.of_value {v w : Value} (hs : settlements ticket m = [some v])
    (hi : m.any Moment.interrupts = false) (hr : m.any Moment.resumes = false)
    (hw : v.coerce type = some w) : ReadAnswer type ticket m (.ok w) := by
  have htype := Value.type_of_coerce hw
  refine ⟨by simp [hs], by simp [hi], fun w' => ?_, fun _ h => absurd rfl (h w), ?_, ?_⟩
  · simp [hs, hi, hr, hw]
  · rintro w' ⟨⟩
    exact htype
  · simp [Except.bind, Value.typed, htype]

/-- **The state of a read leads to the answer that the read owes to what has come.** -/
theorem ReadTells.answer {c : Control} {hs : List UInt64} {requesting : Bool}
    (h : ReadTells ticket requesting m c hs) (hi : c.interrupted = m.any Moment.interrupts)
    (type : DataType) : ReadAnswer type ticket m (c.takeAnswer type).2 := by
  have hone : (settlements ticket m).length ≤ 1 := by
    have hhandle := h.handle
    split_ifs at hhandle <;> omega
  -- in the order in which the code looks: interrupted, resumed past, settled
  cases hany : m.any Moment.interrupts with
  | true =>
    rw [Control.takeAnswer_of_interrupted (hi.trans hany)]
    exact .of_interrupted hone hany
  | false =>
    rw [Control.takeAnswer, if_neg (by rw [hi, hany]; exact Bool.false_ne_true)]
    cases hresumes : m.any Moment.resumes with
    | true =>
      have ha : c.read.abandoned = true := h.abandoned.trans hresumes
      have hrefused : ReadAnswer type ticket m (.error (Fault.invalidInput type)) :=
        .of_refused hone hany fun hr => by simp [hresumes] at hr
      cases c.read.outcome <;> simp only [ha, if_true] <;> exact hrefused
    | false =>
      have ha : c.read.abandoned = false := h.abandoned.trans hresumes
      rw [h.outcome hresumes]
      cases hset : settlements ticket m with
      | nil => exact .of_refused hone hany (by simp [hset])
      | cons answer rest => cases answer with
        | none => exact .of_refused hone hany (by simp [hset])
        | some v =>
          have hrest : rest = [] := by
            rw [hset, List.length_cons] at hone
            exact List.length_eq_zero_iff.1 (by omega)
          subst hrest
          simp only [outcomeOf, ReadOutcome.ofAnswer, ha, Bool.false_eq_true, if_false]
          cases hw : v.coerce type with
          | some w => exact .of_value hset hany hresumes hw
          | none =>
            refine .of_refused hone hany fun _ v' w' hv => ?_
            obtain rfl : v = v' := by simpa [hset] using hv
            simp [hw]

theorem ReadTells.awaitsAnswer_eq {c : Control} {hs : List UInt64} {requesting : Bool}
    (h : ReadTells ticket requesting m c hs) (hi : c.interrupted = m.any Moment.interrupts) :
    c.awaitsAnswer = isUnanswered ticket m := by
  rw [Bool.eq_iff_iff, Control.awaitsAnswer_iff, isUnanswered, Bool.and_eq_true, all_isQuiet_iff,
    h.abandoned, hi]
  constructor
  · rintro ⟨ho, hr, hint⟩
    refine ⟨⟨hr, hint⟩, ?_⟩
    rw [h.outcome hr] at ho
    cases hset : settlements ticket m with
    | nil => rfl
    | cons answer rest =>
      rw [hset] at ho
      cases answer <;> cases ho
  · rintro ⟨⟨hr, hint⟩, hnil⟩
    refine ⟨?_, hr, hint⟩
    rw [h.outcome hr, List.isEmpty_iff.1 hnil]
    rfl

/-! ## How a read goes on -/

/-- The last look at a read, after the steps `m` since it was opened: something has come that ends
it, and the answer is the one it owes. -/
structure Answered (run : RunId) (ask : Ask κ) (state : κ) (x : Moment κ) (m : List (Moment κ)) :
    Prop where
  label : ∃ elapsed, x.label = .advance run elapsed
  point : x.state.point? run = some (.checking ask) ∨ x.state.point? run = some (.awaiting ask)
  cause : isUnanswered ask.ticket m = false
  answer : ∃ answer, ReadAnswer ask.type ask.ticket m answer ∧ state = ask.next answer

/-- **A read goes on, or has been answered with what it owes, or a callback has panicked.** -/
theorem Trail.readStage (hm : Trail setup s₀ m s) (hr : Reachable setup s₀)
    (h₀ : s₀.phase? run = some (.reading ask)) (hi : s₀.control.interrupted = false)
    (htells : ReadTells ask.ticket (s₀.isRequesting run) ([] : List (Moment κ)) s₀.control
      s₀.handles)
    (hcall : m.any (Moment.isCall run) = false) :
    ∃ f, s.phase? run = some f ∧ Stage run (.reading ask) (Answered run ask) m f := by
  refine hm.stage hcall h₀ fun n s l s' t q hn hm hcall ht hreading => ?_
  obtain ⟨hstay, -⟩ | ⟨hq, helapsed, hb, hleft⟩ | ⟨hpanic, -⟩ := ht.turn.reading_cases hreading
  · exact .inl hstay
  · -- the last look: the state of the read tells what has come since it was opened
    have hf : s.phase? run = some (.reading ask) := hreading ▸ ht.phase?.1
    have htells := hm.readTells hr hcall htells hf
    have hint := hm.interrupted_eq_any (hm.within hr hcall hf rfl).1
    rw [hi, Bool.false_or] at hint
    refine .inr (.inl ⟨_, .inl hleft, helapsed, ?_, htells.awaitsAnswer_eq hint ▸ hb, _,
      htells.answer hint _, rfl⟩)
    simpa [System.point?, ht.task] using hq
  · exact .inr (.inr hpanic)

/-! ## The arbitration -/

section Arbitration

variable {next : Except Fault Value → κ}

theorem call_read (h : s.step setup (.call run (.read type next)) = some s₁) :
    (∃ state, s.phase? run = some (.body state)) ∧
      if s.control.interrupted then s₁.point? run = some (.body (next (.error .interrupted)))
      else s₁.point? run = some (.requesting ⟨s.control.read.ticket + 1, type, next⟩) ∧
        s₁.control =
          { s.control with read := ⟨true, false, s.control.read.ticket + 1, .pending⟩ } ∧
        s₁.handles = s.handles := by
  obtain ⟨state, hp, rfl⟩ := System.step_call h
  refine ⟨⟨state, by rw [System.phase?, hp]; rfl⟩, ?_⟩
  cases hi : s.control.interrupted with
  | true =>
    rw [if_pos rfl]
    simp only [System.call, Control.openRead, hi, if_true]
    exact System.point?_goto hp
  | false =>
    rw [if_neg Bool.false_ne_true]
    simp only [System.call, Control.openRead, hi, Bool.false_eq_true, if_false]
    exact ⟨System.point?_goto (p := .body state) hp, rfl, rfl⟩

theorem step_testing {elapsed : Nat} (ho : Orderly s)
    (h : s.point? run = some (.checking ask) ∨ s.point? run = some (.awaiting ask))
    (ha : s.aborted = false) :
    ∃ s', s.step setup (.advance run elapsed) = some s' ∧
      if s.control.awaitsAnswer then s'.phase? run = some (.reading ask)
      else s'.point? run =
        some (.closingRead (.answer (ask.next (s.control.takeAnswer ask.type).2))) := by
  have hstays {q q' : Point κ} (h : s.point? run = some q) (hq' : q'.phase = .reading ask) :
      (s.goto run q').phase? run = some (.reading ask) := by
    rw [System.phase?, System.point?_goto h, Option.map_some, hq']
  have htaken {q : Point κ} (h : s.point? run = some q) : (s.takeAnswer run ask).point? run =
      some (.closingRead (.answer (ask.next (s.control.takeAnswer ask.type).2))) :=
    System.point?_goto (p := q) h
  obtain h | h := h
  · obtain ⟨args, hstep⟩ := ho.step_advance h rfl ha elapsed
    rw [hstep]
    cases hb : s.control.awaitsAnswer with
    | true =>
      exact ⟨s.goto run (.announcing .paused (.awaitAnswer ask)),
        by simp only [System.advance, hb, if_true], hstays h rfl⟩
    | false =>
      exact ⟨_, by simp only [System.advance, hb, Bool.false_eq_true, if_false], htaken h⟩
  · obtain ⟨args, hstep⟩ := ho.step_advance h rfl ha elapsed
    rw [hstep]
    cases hb : s.control.awaitsAnswer with
    | true =>
      exact ⟨s.goto run (.awaitingAsleep ask), by simp only [System.advance, hb, if_true],
        hstays h rfl⟩
    | false =>
      exact ⟨_, by simp only [System.advance, hb, Bool.false_eq_true, if_false], htaken h⟩

theorem act_settle_stale {t : Thread} {k : UInt64} {answer : Option Value}
    (hk : k ≠ s.control.read.ticket) :
    s.act t (.settle k answer) = { s with handles := s.handles.erase k } := by
  have hnone : s.control.settle k answer = none := by
    rw [Option.eq_none_iff_forall_not_mem]
    intro c hc
    exact hk (Control.settle_eq_some_iff.1 hc).1.2.1.symm
  by_cases hmem : k ∈ s.handles
  · simp [System.act, hmem, hnone]
  · simp [System.act, hmem, List.erase_of_not_mem hmem]

/-- What becomes of a call of a read. The steps `p` lead to the state `s` of the call, the call to
`s₁`, and the steps `m`, without another call of the body, to `s₂`. Unless the run has been
interrupted, the read is opened with a new ticket, and is the one the worker is in until its answer
is taken. Meanwhile a settlement of another handle uses that up and does nothing else (`stale`). A
worker that looks whether the read is answered stays in it while nothing has come, and otherwise
takes the answer; unless a callback panics, this is what the body gets. -/
structure Arbitration (setup : Setup κ) (run : RunId) (type : DataType)
    (next : Except Fault Value → κ) (p : List (Moment κ)) (s s₁ : System κ) (m : List (Moment κ))
    (s₂ : System κ) : Prop where
  opened : s₁.point? run = some (if (during run p).any Moment.interrupts
    then .body (next (.error .interrupted))
    else .requesting ⟨s.control.read.ticket + 1, type, next⟩)
  fresh : s.control.read.ticket + 1 ∉ s.handles
  ask : ∀ a, s₂.phase? run = some (.reading a) → a = ⟨s.control.read.ticket + 1, type, next⟩
  stale : ∀ a t k answer, s₂.phase? run = some (.reading a) → k ≠ s.control.read.ticket + 1 →
    s₂.act t (.settle k answer) = { s₂ with handles := s₂.handles.erase k }
  tested : ∀ a elapsed,
    s₂.point? run = some (.checking a) ∨ s₂.point? run = some (.awaiting a) → s₂.aborted = false →
    ∃ s₃, s₂.step setup (.advance run elapsed) = some s₃ ∧
      if isUnanswered (s.control.read.ticket + 1) m then s₃.phase? run = some (.reading a)
      else ∃ answer, ReadAnswer type (s.control.read.ticket + 1) m answer ∧
        s₃.point? run = some (.closingRead (.answer (next answer)))
  returned : ∀ f state, s₂.phase? run = some f → f.GoesOn state →
    m.any (Moment.isPanic run) = false →
    if (during run p).any Moment.interrupts then state = next (.error .interrupted)
    else Taken (Answered run ⟨s.control.read.ticket + 1, type, next⟩ state) m

theorem Trail.arbitration_of_opened (hr₁ : Reachable setup s₁)
    (hfresh : s.control.read.ticket + 1 ∉ s.handles)
    (hi : (during run p).any Moment.interrupts = false)
    (hpoint : s₁.point? run = some (.requesting ⟨s.control.read.ticket + 1, type, next⟩))
    (hcontrol : s₁.control =
      { s.control with read := ⟨true, false, s.control.read.ticket + 1, .pending⟩ })
    (hhandles : s₁.handles = s.handles) (hint : s.control.interrupted = false)
    (hm : Trail setup s₁ m s₂) (hcall : m.any (Moment.isCall run) = false) :
    Arbitration setup run type next p s s₁ m s₂ := by
  have h₀ : s₁.phase? run = some (.reading ⟨s.control.read.ticket + 1, type, next⟩) := by
    rw [System.phase?, hpoint]
    rfl
  have hint₁ : s₁.control.interrupted = false := by rw [hcontrol, ← hint]
  have htells₁ : ReadTells (s.control.read.ticket + 1) (s₁.isRequesting run)
      ([] : List (Moment κ)) s₁.control s₁.handles := by
    have hreq : s₁.isRequesting run = true := by
      rw [System.isRequesting, hpoint]
      rfl
    rw [hcontrol, hhandles, hreq]
    refine ⟨rfl, fun _ => rfl, ?_⟩
    rw [List.count_eq_zero_of_not_mem hfresh]
    rfl
  have hask : ∀ a, s₂.phase? run = some (.reading a) →
      a = ⟨s.control.read.ticket + 1, type, next⟩ := fun a hf =>
    Phase.reading.inj (Option.some.inj ((hm.undecided hcall hf rfl).symm.trans h₀))
  -- a stale settlement, the last look at the outcome, and the answer the program is given
  refine ⟨by simp [hi, hpoint], hfresh, hask, fun a t k answer hf hk => ?_,
    fun a elapsed ha haborted => ?_, fun f state hf hgoes hpanic => ?_⟩
  · refine act_settle_stale ?_
    rw [← (hm.reachable_append hr₁).openRead.ticket hf, hask a hf]
    exact hk
  · have hf : s₂.phase? run = some (.reading a) := by
      rw [System.phase?]
      rcases ha with ha | ha <;> rw [ha] <;> rfl
    obtain rfl := hask a hf
    have htells := hm.readTells hr₁ hcall htells₁ hf
    have hany : s₂.control.interrupted = m.any Moment.interrupts := by
      rw [hm.interrupted_eq_any (hm.within hr₁ hcall hf rfl).1, hint₁, Bool.false_or]
    obtain ⟨s₃, hs, hcases⟩ := step_testing (hm.reachable_append hr₁).orderly ha haborted
    refine ⟨s₃, hs, ?_⟩
    rw [htells.awaitsAnswer_eq hany] at hcases
    split_ifs at hcases ⊢
    · exact hcases
    · exact ⟨_, htells.answer hany type, hcases⟩
  · rw [if_neg (by rw [hi]; exact Bool.false_ne_true)]
    obtain ⟨f', hf', hstage⟩ := hm.readStage hr₁ h₀ hint₁ htells₁ hcall
    obtain rfl := Option.some.inj (hf.symm.trans hf')
    exact hstage.taken hgoes rfl hpanic

theorem Trail.arbitration_of_refused (hfresh : s.control.read.ticket + 1 ∉ s.handles)
    (hi : (during run p).any Moment.interrupts = true)
    (hpoint : s₁.point? run = some (.body (next (.error .interrupted))))
    (hm : Trail setup s₁ m s₂) (hcall : m.any (Moment.isCall run) = false) :
    Arbitration setup run type next p s s₁ m s₂ := by
  have h₀ : s₁.phase? run = some (.body (next (.error .interrupted))) := by
    rw [System.phase?, hpoint]
    rfl
  have hstay := hm.stays_in_body h₀ hcall
  refine ⟨by rw [hi, if_pos rfl, hpoint], hfresh, fun a hf => ?_, fun a t k answer hf _ => ?_,
    fun a elapsed ha _ => ?_, fun f state hf hgoes _ => ?_⟩
  · cases hstay.symm.trans hf
  · cases hstay.symm.trans hf
  · rw [System.phase?] at hstay
    rcases ha with ha | ha <;> rw [ha] at hstay <;> cases hstay
  · rw [hi, if_pos rfl]
    obtain rfl := Option.some.inj (hstay.symm.trans hf)
    exact hgoes.eq (.inr (.inr rfl))

/-- **A read answers that it was interrupted exactly when an interrupt was accepted before its last
look; otherwise it answers with a value exactly when its own handle was settled by one that converts
to the type and no resume came; and otherwise it answers that the input is invalid.** Fewer
reads have been made than there are tickets. -/
theorem Trail.arbitration {directory : String}
    (hp : Trail setup (System.initial setup directory) p s)
    (hfew : HasTickets p)
    (hs : s.step setup (.call run (.read type next)) = some s₁)
    (hm : Trail setup s₁ m s₂) (hcall : m.any (Moment.isCall run) = false) :
    Arbitration setup run type next p s s₁ m s₂ := by
  obtain ⟨⟨state₀, hbody⟩, hcases⟩ := call_read hs
  have hint := hp.interrupted_of_phase hbody rfl
  have hfresh := (hp.counted hfew).fresh ((hp.toNat_ticket rfl hfew).symm ▸ hfew)
  cases hi : (during run p).any Moment.interrupts with
  | true =>
    rw [hint, hi, if_pos rfl] at hcases
    exact hm.arbitration_of_refused hfresh hi hcases hcall
  | false =>
    rw [hint, hi, if_neg Bool.false_ne_true] at hcases
    obtain ⟨hpoint, hcontrol, hhandles⟩ := hcases
    exact hm.arbitration_of_opened (hp.reachable.step hs) hfresh hi hpoint hcontrol hhandles
      (hint.trans hi) hcall

end Arbitration

/-- A read that a resume abandons; its handle stays behind. -/
def abandonedRead : List (Label (Except Fault Value)) :=
  toBody .stopped ++ [.call 0 (.read .integer fun answer => answer), .advance 0 0, .returned 0,
    .advance 0 0, .act (.controller 1) (.resume .stopped), .complete (.controller 1), .advance 0 0,
    .advance 0 0, .advance 0 0, .advance 0 0, .advance 0 0, .advance 0 0]

/-- A read during which the handle that stayed behind is settled, and then its own. -/
def suppliedRead : List (Label (Except Fault Value)) :=
  [.advance 0 0, .act (.controller 1) (.settle 1 (some (.integer 7))),
    .act (.worker 0) (.settle 2 (some (.character 'a'))), .complete (.worker 0), .returned 0,
    .advance 0 0, .advance 0 0, .advance 0 0, .advance 0 0]

theorem arbitration_suppliedRead :
    let setup : Setup (Except Fault Value) := Setup.bare (.error .interrupted)
    let s₀ := System.initial setup ""
    ∃ s s₁ s₂, s₀.steps setup abandonedRead = some s ∧
      s.point? 0 = some (.body (.error (Fault.invalidInput .integer))) ∧
      s.step setup (.call 0 (.read .text fun answer => answer)) = some s₁ ∧
      s₁.steps setup suppliedRead = some s₂ ∧ s₂.point? 0 = some (.body (.ok (.text "a"))) ∧
      Arbitration setup 0 .text (fun answer => answer) (s₀.moments setup abandonedRead) s s₁
        (s₁.moments setup suppliedRead) s₂ :=
  ⟨_, _, _, rfl, rfl, rfl, rfl, rfl,
    Trail.arbitration (trail_of_steps rfl) (by decide) rfl (trail_of_steps rfl) rfl⟩

end RunControl
