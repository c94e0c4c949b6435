import RunControl.Proofs.OpenRead
import RunControl.Proofs.Within

/-!
# What the state of an open read tells

While a read is open, settlements, resumes and interrupts come in any order. The state of the read
and its handle keep of them what the answer depends on.

* `ReadTells`: whether a resume has come, how the handle has been settled if none has, and whether
  the handle can still be settled;
* `Acted.readTells`, `Turn.reading_cases`: every step keeps it up to date;
* **`Trail.readTells`**: it holds until the answer is taken.
-/

namespace RunControl

variable {κ : Type} {setup : Setup κ} {s s₀ s' : System κ} {m : List (Moment κ)} {l : Label κ}
  {run : RunId} {ask : Ask κ} {ticket : UInt64}

/-- The outcome of a read whose handle has been settled so. -/
def outcomeOf : List (Option Value) → ReadOutcome
  | [] => .pending
  | answer :: _ => ReadOutcome.ofAnswer answer

/-- What the control state and the handles tell of the steps `m` since a read was opened, whose
worker still has to look up the provider if `requesting`. The handle is there from then on until it
is settled. -/
structure ReadTells (ticket : UInt64) (requesting : Bool) (m : List (Moment κ)) (c : Control)
    (hs : List UInt64) : Prop where
  abandoned : c.read.abandoned = m.any Moment.resumes
  outcome : m.any Moment.resumes = false → c.read.outcome = outcomeOf (settlements ticket m)
  handle : (settlements ticket m).length + hs.count ticket = if requesting then 0 else 1

section Step

variable {c c' : Control} {hs hs' : List UInt64} {requesting : Bool} {x : Moment κ}

theorem ReadTells.kept (h : ReadTells ticket requesting m c hs) (hread : c'.read = c.read)
    (hx : x.resumes = false) (hset : x.settlement? ticket = none) :
    ReadTells ticket requesting (x :: m) c' hs := by
  have hsettlements : settlements ticket (x :: m) = settlements ticket m :=
    List.filterMap_cons_none hset
  have hresumes : (x :: m).any Moment.resumes = m.any Moment.resumes := by
    rw [List.any_cons, hx, Bool.false_or]
  refine ⟨?_, fun hr => ?_, ?_⟩
  · rw [hread, hresumes, h.abandoned]
  · rw [hread, hsettlements, h.outcome (hresumes ▸ hr)]
  · rw [hsettlements, h.handle]

theorem ReadTells.settled (h : ReadTells ticket requesting m c hs) {answer : Option Value}
    (hmem : ticket ∈ hs) (hx : x.resumes = false)
    (hset : x.settlement? ticket = some answer) (ha : c'.read.abandoned = c.read.abandoned)
    (ho : m.any Moment.resumes = false → c'.read.outcome = ReadOutcome.ofAnswer answer) :
    ReadTells ticket requesting (x :: m) c' (hs.erase ticket) := by
  have hsettlements : settlements ticket (x :: m) = answer :: settlements ticket m :=
    List.filterMap_cons_some hset
  have hresumes : (x :: m).any Moment.resumes = m.any Moment.resumes := by
    rw [List.any_cons, hx, Bool.false_or]
  have hcount : 0 < hs.count ticket := List.count_pos_iff.2 hmem
  have hone := h.handle
  refine ⟨by rw [ha, hresumes, h.abandoned], fun hr => ?_, ?_⟩
  · rw [hsettlements, ho (hresumes ▸ hr)]
    rfl
  · rw [hsettlements, List.count_erase_self, List.length_cons]
    omega

/-- While a handle has not been settled, and no resume has come, the read is open. -/
theorem ReadTells.isOpen (h : ReadTells ticket requesting m c hs) (hmem : ticket ∈ hs)
    (hr : m.any Moment.resumes = false) : c.read.isOpen = true := by
  have hcount : 0 < hs.count ticket := List.count_pos_iff.2 hmem
  have hone := h.handle
  have hnil : settlements ticket m = [] := by
    rw [← List.length_eq_zero_iff]
    split_ifs at hone <;> omega
  rw [Control.isOpen_iff, h.abandoned, h.outcome hr, hnil]
  exact ⟨rfl, hr⟩

theorem Acted.readTells {t : Thread} {a : Action} {owed : Option Pending}
    (ha : Acted s.control s.handles a c' hs' owed)
    (h : ReadTells ticket requesting m s.control s.handles) (halive : s.control.alive = true)
    (hawait : s.control.read.awaiting = true) (hticket : s.control.read.ticket = ticket) :
    ReadTells ticket requesting (⟨s, .act t a⟩ :: m) c' hs' := by
  cases ha with
  | start hc =>
    rw [(Control.start_eq_some_iff.1 hc).1] at halive
    cases halive
  | @resume mode _ hc =>
    have hx : (Moment.mk s (.act t (.resume mode))).resumes = true := Option.isSome_of_eq_some hc
    have hset : settlements ticket (⟨s, .act t (.resume mode)⟩ :: m) = settlements ticket m :=
      List.filterMap_cons_none rfl
    obtain ⟨-, rfl⟩ := Control.resume_eq_some_iff.1 hc
    refine ⟨?_, fun hr => ?_, by rw [hset, h.handle]⟩
    · rw [List.any_cons, hx, Bool.true_or]
      simp [hawait]
    · rw [List.any_cons, hx, Bool.true_or] at hr
      cases hr
  | interrupt hc =>
    rw [(Control.interrupt_eq_some_iff.1 hc).2]
    exact h.kept rfl rfl rfl
  | @settle k answer _ hmem hc =>
    obtain ⟨⟨-, hk, -⟩, rfl⟩ := Control.settle_eq_some_iff.1 hc
    obtain rfl : k = ticket := hk.symm.trans hticket
    refine h.settled hmem rfl ?_ rfl fun _ => rfl
    exact if_pos ⟨rfl, hmem⟩
  | @late k answer hmem hc =>
    by_cases hk : k = ticket
    · subst hk
      refine h.settled hmem rfl (if_pos ⟨rfl, hmem⟩) rfl fun hr => ?_
      -- the handle of a read that is open would have settled it
      have hsome : s.control.settle k answer = some _ :=
        Control.settle_eq_some_iff.2 ⟨⟨hawait, hticket, h.isOpen hmem hr⟩, rfl⟩
      rw [hc] at hsome
      cases hsome
    · have hkept : ReadTells ticket requesting (⟨s, .act t (.settle k answer)⟩ :: m) s.control
          s.handles := h.kept rfl rfl (if_neg fun he => hk he.1)
      exact ⟨hkept.abandoned, hkept.outcome, by
        rw [List.count_erase_of_ne (Ne.symm hk), hkept.handle]⟩
  | activate => exact h.kept rfl rfl rfl
  | other _ hr _ hset =>
    refine h.kept rfl ?_ ?_
    · cases a with
      | resume mode => simp [Moment.resumes, hr mode rfl]
      | _ => rfl
    · cases a with
      | settle k answer =>
        refine if_neg fun hk => ?_
        exact hset k answer rfl (hk.1 ▸ hk.2)
      | _ => rfl

/-- How a read goes on while its answer has not been taken. -/
theorem Turn.reading_cases {q q' : Point κ} (h : Turn run l c hs q c' hs' q')
    (hq : q.phase = .reading ask) :
    (q'.phase = .reading ask ∧ c' = c ∧
        (hs' = hs ∧ q'.isRequesting = q.isRequesting ∨
          q.isRequesting = true ∧ q'.isRequesting = false ∧ hs' = hs ++ [ask.ticket])) ∨
      ((q = .checking ask ∨ q = .awaiting ask) ∧ (∃ elapsed, l = .advance run elapsed) ∧
        c.awaitsAnswer = false ∧
        q'.phase = .closing (.answer (ask.next (c.takeAnswer ask.type).2))) ∨
      (∃ payload, l = .panicked run payload) ∧ q'.phase.isUndecided = false := by
  cases h with
  | pass hp =>
    exact .inl ⟨(hq ▸ hp.moves).of_reading, rfl,
      .inl ⟨rfl, by rw [hp.isRequesting, hp.isRequesting']⟩⟩
  | @park _ _ w =>
    exact .inl ⟨by rw [Point.phase_sleep, hq], rfl, .inl ⟨rfl, by cases w <;> rfl⟩⟩
  | @request _ _ ask' =>
    obtain rfl : ask' = ask := by simpa [Point.phase] using hq
    exact .inl ⟨rfl, rfl, .inr ⟨rfl, rfl, rfl⟩⟩
  | @take _ _ _ ask' elapsed hp hb =>
    obtain rfl : ask' = ask := by rcases hp with rfl | rfl <;> simpa [Point.phase] using hq
    exact .inr (.inl ⟨hp, ⟨elapsed, rfl⟩, hb, rfl⟩)
  | @unwind _ _ _ _ payload => exact .inr (.inr ⟨⟨payload, rfl⟩, rfl⟩)
  | _ => cases hq

end Step

/-- The worker of the run is about to look up the provider of a read. -/
def System.isRequesting (s : System κ) (run : RunId) : Bool :=
  (s.point? run).any Point.isRequesting

/-- Another step than a turn of its own worker leaves a run requesting, or not. -/
theorem System.Stepped.isRequesting_eq (h : System.Stepped s s' l) (hl : l.worker? ≠ some run) :
    s'.isRequesting run = s.isRequesting run := by
  unfold System.isRequesting
  obtain he | ⟨-, hnone, hqueued⟩ | ⟨he, -⟩ := h.point?_cases hl
  · rw [he]
  · rw [hnone, hqueued]
    rfl
  · rw [he]
    cases s.point? run with
    | none => rfl
    | some q => cases q <;> rfl

theorem System.Turned.readTells {t : Task κ} {q : Point κ} (ht : System.Turned run l t q s s')
    (hl : l.worker? = some run) (hf : s.phase? run = some (.reading ask))
    (hf' : s'.phase? run = some (.reading ask))
    (h : ReadTells ticket (s.isRequesting run) m s.control s.handles)
    (hticket : ask.ticket = ticket) :
    ReadTells ticket (s'.isRequesting run) (⟨s, l⟩ :: m) s'.control s'.handles := by
  have hact := Label.not_act_of_worker hl
  have hresumes := (Moment.not_of_not_act (s := s) hact).2.1
  have hset := Moment.settlement?_of_not_act (s := s) hact ticket
  obtain ⟨h1, h2⟩ := ht.phase?
  have hq : t.point.phase = .reading ask := Option.some.inj (h1.symm.trans hf)
  have hq' : q.phase = .reading ask := Option.some.inj (h2.symm.trans hf')
  have hreq : s.isRequesting run = t.point.isRequesting := by
    simp [System.isRequesting, System.point?, ht.task]
  have hreq' : s'.isRequesting run = q.isRequesting := by
    simp [System.isRequesting, System.point?, ht.getElem?]
  obtain ⟨-, hc, ⟨hhs, he⟩ | ⟨hbefore, hafter, hhs⟩⟩ | ⟨-, -, -, hclosing⟩ | ⟨-, hdecided⟩ :=
    ht.turn.reading_cases hq
  · rw [hhs, hreq', he, ← hreq]
    exact h.kept (by rw [hc]) hresumes hset
  · have hkept : ReadTells ticket (s.isRequesting run) (⟨s, l⟩ :: m) s'.control s.handles :=
      h.kept (by rw [hc]) hresumes hset
    rw [hreq, hbefore] at hkept
    have hzero := hkept.handle
    refine ⟨hkept.abandoned, hkept.outcome, ?_⟩
    rw [hreq', hafter, hhs, hticket, List.count_append, List.count_singleton_self]
    simp only [Bool.false_eq_true, if_false, if_true] at hzero ⊢
    omega
  · cases hclosing.symm.trans hq'
  · rw [hq'] at hdecided
    cases hdecided

/-- **Until its answer is taken, the state of a read tells what has come since it was opened.** -/
theorem Trail.readTells (hm : Trail setup s₀ m s) (hr : Reachable setup s₀)
    (hcall : m.any (Moment.isCall run) = false)
    (h₀ : ReadTells ask.ticket (s₀.isRequesting run) ([] : List (Moment κ)) s₀.control s₀.handles)
    (hf : s.phase? run = some (.reading ask)) :
    ReadTells ask.ticket (s.isRequesting run) m s.control s.handles := by
  induction hm with
  | nil => exact h₀
  | @cons m s s' l hm hs ih =>
    rw [List.any_cons, Bool.or_eq_false_iff] at hcall
    have hbefore := undecided_of_step hs hcall.1 hf rfl
    have htells := ih hcall.2 hbefore
    have hreach := hm.reachable_append hr
    have hst := System.stepped_of_step hs
    by_cases hl : l.worker? = some run
    · obtain ⟨t, q, ht⟩ := System.turned_of_step hl hs
      exact ht.readTells hl hbefore hf htells rfl
    · rw [hst.isRequesting_eq hl]
      by_cases hact : ∃ t a, l = .act t a
      · obtain ⟨t, a, rfl⟩ := hact
        cases hst with
        | act _ ha =>
          exact ha.readTells htells (hreach.orderly.alive_of_phase hbefore rfl)
            (hreach.openRead.awaiting hbefore rfl) (hreach.openRead.ticket hbefore).symm
        | turn hl' => cases hl'
      · have hact : ∀ t a, l ≠ .act t a := fun t a he => hact ⟨t, a, he⟩
        obtain ⟨hc, hhs⟩ := hst.kept hreach.orderly hbefore rfl hl hact
        rw [hhs]
        exact htells.kept (by rw [hc]) (Moment.not_of_not_act hact).2.1
          (Moment.settlement?_of_not_act hact _)

end RunControl
