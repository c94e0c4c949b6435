import RunControl.Proofs.Linked

/-!
# Runs after runs

A supervisor on which runs have ended starts the next one with a raised flag, a generation, a ticket
and handles that they have left behind, and perhaps with notifications on their way. A fresh
supervisor has none of these. Nothing that a run does or shows depends on them.

* `System.renewed`: the fresh supervisor;
* `Abreast`: an execution of each, step by step in other numbers, with what is left over in between;
* `shown`, `Alike`: what an execution shows to other code, and what the states of two have in
  common;
* `Departs.exists_fresh`, `Departs.exists_reused`: each execution has one abreast of it;
* **`Trail.renewal`**: both do the same and show the same.
-/

namespace RunControl

variable {κ : Type} {setup : Setup κ} {s s' s₁ f f' f₁ : System κ} {d : Shift} {left : Leftover κ}
  {p : List (Moment κ)} {l l' : Label κ} {run : RunId}

/-- A fresh supervisor for the same program, with the same settings. -/
def System.renewed (setup : Setup κ) (s : System κ) : System κ :=
  { System.initial setup s.workingDirectory with
    control :=
      { Control.initial setup.info.lineCount with breakpoints := s.control.breakpoints }
    roster := s.roster
    snapshot := s.snapshot
    input := s.input
    output := s.output
    executions := s.executions }

/-- What the numbers of a fresh supervisor are after the runs so far, whatever a clock shows. -/
def System.shift (s : System κ) : Shift :=
  ⟨s.tasks.length, s.control.read.ticket, s.control.generation, fun _ => 0⟩

/-- Two executions abreast, of a reused supervisor from `s₁` and of a fresh one from `f₁`. Both take
the same step, or a handle of an earlier run is settled, or the notification of an earlier call
arrives, upon which the sleepers wake up for no reason. -/
inductive Abreast (setup : Setup κ) (d : Shift) (s₁ f₁ : System κ) :
    List (Moment κ) → System κ → List (Moment κ) → System κ → Prop
  | start : Abreast setup d s₁ f₁ [] s₁ [] f₁
  | same {ms mf : List (Moment κ)} {s s' f f' : System κ} {l' l : Label κ} :
    Abreast setup d s₁ f₁ ms s mf f → d.Twins s f l' l → s.step setup l' = some s' →
    f.step setup l = some f' → Abreast setup d s₁ f₁ (⟨s, l'⟩ :: ms) s' (⟨f, l⟩ :: mf) f'
  | stale {ms mf : List (Moment κ)} {s s' f : System κ} {t : Thread} {k : UInt64}
    {answer : Option Value} :
    Abreast setup d s₁ f₁ ms s mf f → k ≤ d.tickets →
    s.step setup (.act t (.settle k answer)) = some s' →
      Abreast setup d s₁ f₁ (⟨s, .act t (.settle k answer)⟩ :: ms) s' mf f
  | late {ms mf : List (Moment κ)} {s s' f : System κ} {n : ℕ} {runs : List RunId} :
    Abreast setup d s₁ f₁ ms s mf f → f.isBusy (.controller n) = false →
    s.step setup (.complete (.controller n)) = some s' →
    f.steps setup (runs.map .wake) = some (f.finishCall .notify) →
      Abreast setup d s₁ f₁ (⟨s, .complete (.controller n)⟩ :: ms) s'
        (f.moments setup (runs.map .wake) ++ mf) (f.finishCall .notify)

/-! ## What is shown -/

/-- Code that does not belong to the supervisor does something on the worker of a run. The place of
the worker tells what it has been shown. -/
def Moment.shown? (x : Moment κ) : Option (RunId × Point κ) :=
  x.label.worker?.bind fun run =>
    (x.state.point? run).bind fun q => if q.isOutside then some (run, q) else none

/-- What has been shown to code that does not belong to the supervisor, the latest first. -/
def shown (p : List (Moment κ)) : List (RunId × Point κ) := p.filterMap Moment.shown?

/-- What has been shown, in other numbers. -/
def Shift.shown (d : Shift) (x : RunId × Point κ) : RunId × Point κ := (d.runs + x.1, d.point x.2)

/-- A reused supervisor is in the state `s` as a fresh one is in `f`: every worker is where the
other one is, and the earlier runs stay done. -/
structure Alike (d : Shift) (s f : System κ) : Prop where
  isRunning : s.control.isRunning = f.control.isRunning
  mode : s.control.mode = f.control.mode
  position : s.control.position = f.control.position
  awaiting : s.control.read.awaiting = f.control.read.awaiting
  canPause : ∀ line, s.control.canPause line = f.control.canPause line
  roster : s.roster = f.roster
  snapshot : s.snapshot = f.snapshot
  input : s.input = f.input
  output : s.output = f.output
  workingDirectory : s.workingDirectory = f.workingDirectory
  aborted : s.aborted = f.aborted
  point : ∀ run, (s.point? (d.runs + run)).map Shift.still.point = (f.point? run).map d.point
  earlier : ∀ run < d.runs, s.point? run = some .done

/-! ## Side by side -/

/-- The states after the two starts. The steps `p` led to the reused supervisor. -/
structure Departs (d : Shift) (p : List (Moment κ)) (s₁ f₁ : System κ) : Prop where
  linked : ∃ left, Linked d left s₁ f₁
  tickets : d.tickets.toNat = p.countP Moment.opens
  ticket : f₁.control.read.ticket = 0
  tasks : f₁.tasks = []
  aborted : s₁.aborted = false

theorem Linked.opens_eq (h : Linked d left s f) (hl : d.Twins s f l' l) :
    (Moment.mk s l').opens = (Moment.mk f l).opens := by
  have hlabel := hl.label
  have hopen : s.control.openRead.isSome = f.control.openRead.isSome := by
    rw [h.control]
    unfold Control.openRead
    have hi : (d.control left.abandoned f.control).interrupted = f.control.interrupted := rfl
    rw [hi]
    split_ifs <;> rfl
  cases l with
  | call run c =>
    cases l' with
    | call run' c' =>
      obtain rfl : c' = c := (Label.call.inj hlabel).2
      cases c' with
      | read => exact hopen
      | _ => rfl
    | _ => cases hlabel
  | _ => cases l' <;> first | rfl | cases hlabel

theorem Departs.room (h₁ : Departs d p s₁ f₁) {ms : List (Moment κ)} (hfew : HasTickets (ms ++ p))
    (hk : f.control.read.ticket.toNat = ms.countP Moment.opens) : d.HasRoom f := by
  unfold HasTickets at hfew
  unfold Shift.HasRoom
  rw [List.countP_append] at hfew
  rw [h₁.tickets, hk]
  omega

theorem Departs.same (h₁ : Departs d p s₁ f₁) {ms : List (Moment κ)}
    (hfew : HasTickets (⟨s, l'⟩ :: ms ++ p)) (h : Linked d left s f)
    (hk : f.control.read.ticket.toNat = ms.countP Moment.opens) (hl : d.Twins s f l' l)
    (hs : s.step setup l' = some s') (hf : f.step setup l = some f') :
    ∃ left', left'.late = left.late ∧ Linked d left' s' f' ∧
      f'.control.read.ticket.toNat = (⟨s, l'⟩ :: ms : List (Moment κ)).countP Moment.opens := by
  have hk' : f'.control.read.ticket.toNat =
      (⟨s, l'⟩ :: ms : List (Moment κ)).countP Moment.opens := by
    have hlt : f.control.read.ticket.toNat + 1 < UInt64.size :=
      Nat.lt_of_le_of_lt (Nat.add_le_add_right (Nat.le_add_left _ _) 1) h.room
    rw [toNat_ticket_of_step hf hlt, hk, List.countP_cons, h.opens_eq hl]
  have hle : f.control.read.ticket.toNat ≤ f'.control.read.ticket.toNat := by
    rw [hk, hk', List.countP_cons]
    exact Nat.le_add_right _ _
  obtain ⟨left', hlate, h'⟩ := h.same hl hs hf hle (h₁.room hfew hk')
  exact ⟨left', hlate, h', hk'⟩

/-- **Two executions abreast are in the same states, but for numbers and for what is left over.** -/
theorem Abreast.linked {ms mf : List (Moment κ)} (h : Abreast setup d s₁ f₁ ms s mf f)
    (h₁ : Departs d p s₁ f₁) (hfew : HasTickets (ms ++ p)) :
    (∃ left, Linked d left s f) ∧
      f.control.read.ticket.toNat = ms.countP Moment.opens := by
  induction h with
  | start => exact ⟨h₁.linked, congrArg UInt64.toNat h₁.ticket⟩
  | same _ hl hs hf ih =>
    obtain ⟨⟨left, h⟩, hk⟩ := ih hfew.of_cons
    obtain ⟨left', -, h', hk'⟩ := h₁.same hfew h hk hl hs hf
    exact ⟨⟨left', h'⟩, hk'⟩
  | stale _ hk hs ih =>
    obtain ⟨⟨left, h⟩, hticket⟩ := ih hfew.of_cons
    obtain ⟨left', -, h'⟩ := h.stale hk hs
    exact ⟨⟨left', h'⟩, hticket⟩
  | late _ hbusy hs _ ih =>
    obtain ⟨⟨left, h⟩, hticket⟩ := ih hfew.of_cons
    exact ⟨⟨_, h.late hbusy hs⟩, hticket⟩

theorem Linked.alike (h : Linked d left s f) : Alike d s f where
  isRunning := by rw [h.control]; rfl
  mode := by rw [h.control]; rfl
  position := by rw [h.control]; rfl
  awaiting := by rw [h.control]; rfl
  canPause line := by rw [h.control]; rfl
  roster := by have he := congrArg System.roster h.eq; exact he
  snapshot := by have he := congrArg System.snapshot h.eq; exact he
  input := by have he := congrArg System.input h.eq; exact he
  output := by have he := congrArg System.output h.eq; exact he
  workingDirectory := by have he := congrArg System.workingDirectory h.eq; exact he
  aborted := h.aborted
  point := h.point
  earlier _ := h.earlier

/-! ### What is shown -/

theorem shown_cons (x : Moment κ) (p : List (Moment κ)) :
    shown (x :: p) = x.shown?.toList ++ shown p := by
  unfold shown
  cases h : x.shown? <;> simp [h]

/-- Nothing is shown to anybody when a worker wakes up for no reason, and no run ends. -/
theorem moments_wake (setup : Setup κ) (f : System κ) (run : RunId) (runs : List RunId) :
    shown (f.moments setup (runs.map .wake)) = [] ∧
      results run (f.moments setup (runs.map .wake)) = [] := by
  induction runs generalizing f with
  | nil => exact ⟨rfl, rfl⟩
  | cons r runs ih =>
    rw [List.map_cons, System.moments]
    cases f.step setup (.wake r) with
    | none => exact ⟨rfl, rfl⟩
    | some f' =>
      obtain ⟨h1, h2⟩ := ih f'
      unfold shown at h1 ⊢
      unfold results at h2 ⊢
      rw [List.filterMap_append, List.filterMap_append, h1, h2]
      exact ⟨rfl, rfl⟩

namespace Linked

theorem worker? (hl : d.Twins s f l' l) : l'.worker? = l.worker?.map fun run => d.runs + run := by
  have h := congrArg Label.worker? hl.label
  rw [d.worker?_label, Shift.worker?_label] at h
  simpa [Shift.still] using h

theorem shown?_eq (h : Linked d left s f) (hl : d.Twins s f l' l) :
    (Moment.mk s l').shown?.map Shift.still.shown = (Moment.mk f l).shown?.map d.shown := by
  unfold Moment.shown?
  rw [worker? hl]
  cases l.worker? with
  | none => rfl
  | some run =>
    have hpoint := h.point run
    simp only [Option.map_some, Option.bind_some]
    cases hf : f.point? run with
    | none =>
      rw [hf] at hpoint
      rw [Option.map_eq_none_iff.1 hpoint]
      rfl
    | some q =>
      rw [hf] at hpoint
      obtain ⟨q', hq', he⟩ := Option.map_eq_some_iff.1 hpoint
      have hout : q'.isOutside = q.isOutside := by
        rw [← Shift.still.isOutside_point q', he, d.isOutside_point]
      simp only [hq', Option.bind_some, hout]
      split_ifs
      · exact congrArg some (Prod.ext (Nat.zero_add _) he)
      · rfl

end Linked

/-- The result with which a run is about to end. -/
def Point.result? : Point κ → Option RunResult
  | finishing result _ => some result
  | _ => none

theorem Shift.result?_point (d : Shift) (q : Point κ) :
    (d.point q).result? = q.result?.map d.result := by
  cases q <;> rfl

theorem Moment.result?_advance (s : System κ) (r run : RunId) (elapsed : ℕ) :
    (Moment.mk s (.advance r elapsed)).result? run =
      if r = run then (s.point? run).bind Point.result? else none := by
  unfold Moment.result? System.phase?
  cases s.point? run with
  | none => simp
  | some q =>
    cases q with
    | announcing notice after | telling notice queue after =>
      cases after with
      | leaveRead exit => cases exit <;> simp [Point.phase, AfterNotice.phase, Point.result?]
      | _ => simp [Point.phase, AfterNotice.phase, Point.result?]
    | _ => simp [Point.phase, Point.result?]

theorem Linked.result?_eq (h : Linked d left s f) (hl : d.Twins s f l' l) (run : RunId) :
    ((Moment.mk s l').result? (d.runs + run)).map Shift.still.result =
      ((Moment.mk f l).result? run).map d.result := by
  by_cases hadvance : ∃ r elapsed, l = .advance r elapsed
  · obtain ⟨r, elapsed, rfl⟩ := hadvance
    obtain ⟨r', elapsed', rfl⟩ : ∃ r' elapsed', l' = .advance r' elapsed' := by
      have hlabel := hl.label
      cases l' <;> first | exact ⟨_, _, rfl⟩ | cases hlabel
    obtain rfl : r' = d.runs + r := Option.some.inj (worker? hl)
    rw [Moment.result?_advance, Moment.result?_advance]
    simp only [Nat.add_left_cancel_iff]
    split_ifs
    · have hpoint := congrArg (Option.bind · Point.result?) (h.point run)
      simpa [Option.bind_map, Function.comp_def, Shift.result?_point, Option.map_bind] using hpoint
    · rfl
  · have hnone {s : System κ} {l : Label κ} (hl : ¬ ∃ r elapsed, l = .advance r elapsed)
        (run : RunId) : (Moment.mk s l).result? run = none := by
      cases l <;> first | rfl | exact absurd ⟨_, _, rfl⟩ hl
    rw [hnone hadvance, hnone]
    · rfl
    · rintro ⟨r', elapsed', rfl⟩
      have hlabel := hl.label
      cases l <;> first | exact hadvance ⟨_, _, rfl⟩ | cases hlabel

/-- **Two executions abreast show the same and end with the same results.** -/
theorem Abreast.shown_eq {ms mf : List (Moment κ)} (h : Abreast setup d s₁ f₁ ms s mf f)
    (h₁ : Departs d p s₁ f₁) (hfew : HasTickets (ms ++ p)) (run : RunId) :
    (shown ms).map Shift.still.shown = (shown mf).map d.shown ∧
      (results (d.runs + run) ms).map Shift.still.result =
        (results run mf).map d.result := by
  induction h with
  | start => exact ⟨rfl, rfl⟩
  | same hm hl hs hf ih =>
    obtain ⟨⟨left, h⟩, -⟩ := hm.linked h₁ hfew.of_cons
    have ih := ih hfew.of_cons
    have hshown := congrArg Option.toList (h.shown?_eq hl)
    have hresult := congrArg Option.toList (h.result?_eq hl run)
    simp only [Option.toList_map] at hshown hresult
    rw [shown_cons, shown_cons, results_cons, results_cons, List.map_append, List.map_append,
      List.map_append, List.map_append, ih.1, ih.2, hshown, hresult]
    exact ⟨rfl, rfl⟩
  | stale _ _ _ ih => exact ih hfew.of_cons
  | @late _ mf _ _ f _ runs _ _ _ _ ih =>
    obtain ⟨hshown, hresults⟩ := moments_wake setup f run runs
    have ih := ih hfew.of_cons
    unfold shown at hshown ih ⊢
    unfold results at hresults ih ⊢
    rw [List.filterMap_append, List.filterMap_append, hshown, hresults]
    exact ih

/-! ## Each execution has one abreast of it -/

/-- **Whatever the reused supervisor does, the fresh one can do abreast of it.** -/
theorem Departs.exists_fresh (h₁ : Departs d p s₁ f₁) {ms : List (Moment κ)}
    (hm : Trail setup s₁ ms s) (hfew : HasTickets (ms ++ p)) :
    ∃ mf f, Abreast setup d s₁ f₁ ms s mf f := by
  induction hm with
  | nil => exact ⟨[], f₁, .start⟩
  | cons _ hs ih =>
    obtain ⟨mf, f, habreast⟩ := ih hfew.of_cons
    obtain ⟨⟨left, h⟩, -⟩ := habreast.linked h₁ hfew.of_cons
    obtain ⟨l, hl⟩ | ⟨t, k, answer, rfl, hk⟩ | ⟨n, rfl, hbusy⟩ := h.step_cases hs
    · have hsome := h.isSome_step hl setup
      rw [hs] at hsome
      obtain ⟨f', hf⟩ := Option.isSome_iff_exists.1 hsome.symm
      exact ⟨_, f', habreast.same hl hs hf⟩
    · exact ⟨mf, f, habreast.stale hk hs⟩
    · have ha : f.aborted = false := h.aborted ▸ System.aborted_of_step hs
      obtain ⟨runs, hruns⟩ : ∃ runs : List RunId,
          f.steps setup (runs.map .wake) = some (f.finishCall .notify) :=
        h.fresh.orderly.steps_rouse rfl ha
      exact ⟨_, _, habreast.late hbusy hs hruns⟩

/-- The notifications from before the start can all arrive before the run is handed to the pool. -/
theorem Departs.exists_punctual (h₁ : Departs d p s₁ f₁) :
    ∃ ms s left, Abreast setup d s₁ f₁ ms s [] f₁ ∧ ms.countP Moment.opens = 0 ∧
      Linked d left s f₁ ∧ left.late = [] := by
  obtain ⟨left, hlinked⟩ := h₁.linked
  have hquiet : f₁.finishCall .notify = f₁ := by
    have htasks : f₁.tasks.map (fun t => { t with point := t.point.wake }) = f₁.tasks := by
      rw [h₁.tasks]
      rfl
    exact congrArg (fun tasks => { f₁ with tasks }) htasks
  -- induction on the number of notifications that have not arrived
  suffices hmain : ∀ (n : ℕ) ms s left', left'.late.length ≤ n →
      Abreast setup d s₁ f₁ ms s [] f₁ → ms.countP Moment.opens = 0 → Linked d left' s f₁ →
      s.aborted = false →
      ∃ ms s left, Abreast setup d s₁ f₁ ms s [] f₁ ∧ ms.countP Moment.opens = 0 ∧
        Linked d left s f₁ ∧ left.late = [] from
    hmain _ [] s₁ left (Nat.le_refl _) .start rfl hlinked h₁.aborted
  intro n
  induction n with
  | zero =>
    intro ms s left' hn habreast hzero h _
    exact ⟨ms, s, left', habreast, hzero, h, List.length_eq_zero_iff.1 (Nat.le_zero.1 hn)⟩
  | succ n ih =>
    intro ms s left' hn habreast hzero h ha
    by_cases hnil : left'.late = []
    · exact ⟨ms, s, left', habreast, hzero, h, hnil⟩
    · obtain ⟨p, hp⟩ := List.exists_mem_of_ne_nil _ hnil
      obtain ⟨m, rfl⟩ := h.clear.late p hp
      have hin : (Thread.controller m, Pending.notify) ∈ s.inFlight := by
        rw [h.inFlight]
        exact List.mem_append_left _ hp
      have hbusy : f₁.isBusy (.controller m) = false := by
        by_contra hbusy
        have hbusy : f₁.isBusy (.controller m) = true := by simpa using hbusy
        exact h.not_late ((h.isBusy hbusy).trans hbusy.symm) _ hp rfl
      obtain ⟨s', hs, -⟩ : ∃ s', s.step setup (.complete (.controller m)) = some s' ∧ _ :=
        h.reused.orderly.complete_notify hin ha
      have hruns : f₁.steps setup (([] : List RunId).map .wake) = some (f₁.finishCall .notify) := by
        rw [hquiet]
        rfl
      have hstep := habreast.late hbusy hs hruns
      have hlink := h.late hbusy hs
      rw [hquiet] at hstep hlink
      refine ih _ s' _ ?_ hstep hzero hlink ?_
      · have hlt : (left'.late.filter fun p => p.1 ≠ .controller m).length < left'.late.length :=
          List.length_filter_lt_length_iff_exists.2 ⟨_, hp, by simp⟩
        exact Nat.le_of_lt_succ (Nat.lt_of_lt_of_le hlt hn)
      · rw [hlink.aborted, ← h.aborted, ha]

/-- The step of the reused supervisor that is the given one of the fresh supervisor. -/
theorem Shift.label_unclocked (hclock : d.clock = fun _ => 0) (l : Label κ) :
    still.label (({ d with clock := id } : Shift).label l) = d.label l := by
  cases l with
  | act t a => cases t <;> cases a <;> simp [label, thread, action, still]
  | complete t => cases t <;> simp [label, thread, still]
  | _ => simp [label, still, hclock]

/-- **Whatever the fresh supervisor does, the reused one can do abreast of it.** -/
theorem Departs.exists_reused (h₁ : Departs d p s₁ f₁) {mf : List (Moment κ)}
    (hm : Trail setup f₁ mf f) (hfew : HasTickets (mf ++ p)) :
    ∃ ms s, Abreast setup d s₁ f₁ ms s mf f ∧
      ms.countP Moment.opens = mf.countP Moment.opens := by
  have hmain : ∃ ms s left, Abreast setup d s₁ f₁ ms s mf f ∧
      ms.countP Moment.opens = mf.countP Moment.opens ∧ Linked d left s f ∧ left.late = [] := by
    induction hm with
    | nil => exact h₁.exists_punctual
    | @cons mf f f' l _ hf ih =>
      obtain ⟨ms, s, left, habreast, hcount, h, hlate⟩ := ih hfew.of_cons
      have hl : d.Twins s f (({ d with clock := id } : Shift).label l) l :=
        ⟨Shift.label_unclocked h.clock l, fun t _ => by
          rw [h.isBusy_eq, d.isBusy_system (by simp [hlate])]⟩
      have hsome := h.isSome_step hl setup
      rw [hf] at hsome
      obtain ⟨s', hs⟩ := Option.isSome_iff_exists.1 hsome
      have hcount' : (⟨s, ({ d with clock := id } : Shift).label l⟩ :: ms).countP Moment.opens =
          (⟨f, l⟩ :: mf).countP Moment.opens := by
        rw [List.countP_cons, List.countP_cons, hcount, h.opens_eq hl]
      have hfew' : HasTickets (⟨s, ({ d with clock := id } : Shift).label l⟩ :: ms ++ p) := by
        unfold HasTickets at hfew ⊢
        rwa [List.countP_append, hcount', ← List.countP_append]
      have hk := (habreast.linked h₁ hfew'.of_cons).2
      obtain ⟨left', hlate', h', -⟩ := h₁.same hfew' h hk hl hs hf
      exact ⟨_, s', left', habreast.same hl hs hf, hcount', h', hlate'.trans hlate⟩
  obtain ⟨ms, s, -, habreast, hcount, -⟩ := hmain
  exact ⟨ms, s, habreast, hcount⟩

/-! ## The next run -/

/-- What a run is like on a reused supervisor, which is in the state `s₁` after the steps `p` and
the start, beside a run on a fresh one, which is in `f₁` after the start. There is a ticket for each
of the reads, before the start and since. The same step is possible on both sides or on none; both
are always in the same state but for the numbers, show the same to observers, libraries, provider,
sink and body, and end runs with the same results but for the time they took. Whatever the one does,
the other one can do abreast of it; the reused one needs no more reads than the fresh one. -/
structure Renewal (setup : Setup κ) (d : Shift) (p : List (Moment κ)) (s₁ f₁ : System κ) :
    Prop where
  lockstep : ∀ ms s mf f l' l, HasTickets (ms ++ p) → Abreast setup d s₁ f₁ ms s mf f →
    d.Twins s f l' l → (s.step setup l').isSome = (f.step setup l).isSome
  alike : ∀ ms s mf f, HasTickets (ms ++ p) → Abreast setup d s₁ f₁ ms s mf f → Alike d s f
  shown : ∀ ms s mf f, HasTickets (ms ++ p) → Abreast setup d s₁ f₁ ms s mf f →
    (shown ms).map Shift.still.shown = (RunControl.shown mf).map d.shown
  results : ∀ ms s mf f run, HasTickets (ms ++ p) → Abreast setup d s₁ f₁ ms s mf f →
    (results (d.runs + run) ms).map Shift.still.result =
      (RunControl.results run mf).map Shift.still.result
  reused : ∀ ms s, HasTickets (ms ++ p) → Trail setup s₁ ms s →
    ∃ mf f, Abreast setup d s₁ f₁ ms s mf f
  fresh : ∀ mf f, HasTickets (mf ++ p) → Trail setup f₁ mf f →
    ∃ ms s, Abreast setup d s₁ f₁ ms s mf f ∧ ms.countP Moment.opens = mf.countP Moment.opens

theorem Departs.renews (h₁ : Departs d p s₁ f₁) : Renewal setup d p s₁ f₁ where
  lockstep ms s mf f l' l hfew hm hl := by
    obtain ⟨⟨left, h⟩, -⟩ := hm.linked h₁ hfew
    exact h.isSome_step hl setup
  alike ms s mf f hfew hm := by
    obtain ⟨⟨left, h⟩, -⟩ := hm.linked h₁ hfew
    exact h.alike
  shown ms s mf f hfew hm := (hm.shown_eq h₁ hfew 0).1
  results ms s mf f run hfew hm := by
    obtain ⟨left, h⟩ := h₁.linked
    have hclock : d.result = Shift.still.result := by
      funext result
      simp [Shift.result, Shift.still, h.clock]
    rw [(hm.shown_eq h₁ hfew run).2, hclock]
  reused ms s hfew hm := h₁.exists_fresh hm hfew
  fresh mf f hfew hm := h₁.exists_reused hm hfew

theorem Sound.renewed (s : System κ) : Sound (s.renewed setup) := by
  have hs : Sound (System.initial setup s.workingDirectory) := .initial s.workingDirectory
  exact
    { orderly := ⟨hs.orderly.keys, hs.orderly.outstanding, hs.orderly.latest, hs.orderly.outside⟩
      openRead :=
        ⟨hs.openRead.reader, hs.openRead.awaiting, hs.openRead.ticket, hs.openRead.outcome⟩ }

theorem Counted.renewed (s : System κ) : Counted (s.renewed setup) where
  awaiting h := absurd h Bool.false_ne_true
  handles _ hk := absurd hk List.not_mem_nil

/-- While nobody is alive and all runs are done, only notifications of controllers are on their
way. -/
theorem Orderly.late_of_idle (ho : Orderly s) (hidle : s.control.alive = false)
    (hdone : ∀ task ∈ s.tasks, task.point = .done) {p : Thread × Pending} (hp : p ∈ s.inFlight) :
    ∃ n, p = (.controller n, .notify) := by
  obtain ⟨t, q⟩ := p
  cases t with
  | worker r =>
    obtain ⟨task, htask, hout⟩ := ho.outside hp
    rw [hdone task (List.mem_of_getElem? htask)] at hout
    cases hout
  | controller n =>
    cases q with
    | notify => exact ⟨n, rfl⟩
    | submit args =>
      have howed : 0 < s.owed := List.countP_pos_iff.2 ⟨_, hp, rfl⟩
      have hzero := ho.outstanding
      rw [hidle, if_neg (by simp), System.outstanding] at hzero
      omega

theorem Trail.linked_start {directory : String}
    (hp : Trail setup (System.initial setup directory) p s) (hfew : HasTickets p)
    (hidle : s.control.alive = false) (hdone : ∀ task ∈ s.tasks, task.point = .done) {n : ℕ}
    {args : List String} {mode : DebugMode}
    (hs : s.step setup (.act (.controller n) (.start args mode)) = some s₁)
    (hf : (s.renewed setup).step setup (.act (.controller n) (.start args mode)) = some f₁) :
    ∃ left, Linked s.shift left s₁ f₁ := by
  have ha := System.aborted_of_step hs
  have hr := hp.reachable
  have hsound := hr.sound.step hs
  have hsound' := (Sound.renewed s).step hf
  obtain ⟨hawaiting, houtcome⟩ := hr.read_at_rest hidle
  have hstart : s.control.start mode = some { s.control with
    interrupted := false, mode, alive := true, position := Position.unknown } :=
    Control.start_eq_some_iff.2 ⟨hidle, rfl⟩
  have hclear : s.shift.Clear ⟨s.tasks, s.inFlight, s.handles, s.control.read.abandoned⟩ :=
    ⟨rfl, hdone, fun p hp => hr.orderly.late_of_idle hidle hdone hp,
      fun k hk => UInt64.le_iff_toNat_le.2 ((hp.counted hfew).handles k hk).2⟩
  have hcounted : Counted f₁ := (Counted.renewed s).step (Sound.renewed s).openRead hf (by
    rw [ticket_of_step hf]
    exact Nat.zero_le _)
  have hroom : s.shift.HasRoom f₁ := by
    unfold Shift.HasRoom
    rw [ticket_of_step hf]
    change s.control.read.ticket.toNat + 0 + 1 < UInt64.size
    rw [hp.toNat_ticket rfl hfew]
    exact hfew
  -- what is left is the equation of the two states, the reused one and the fresh one shifted
  refine ⟨_, hclear, rfl, hsound, hsound', hcounted, hroom, ?_⟩
  obtain ⟨-, rfl⟩ := System.act_of_step hs
  obtain ⟨-, rfl⟩ := System.act_of_step hf
  simp only [System.act, hstart]
  have htasks : s.tasks.map Shift.still.task = s.tasks := by
    refine (List.map_congr_left fun task htask => ?_).trans (List.map_id s.tasks)
    obtain ⟨args, q⟩ := task
    obtain rfl : q = .done := hdone _ htask
    rfl
  have hread : s.control.read = ⟨false, s.control.read.abandoned, s.control.read.ticket,
      .pending⟩ := by
    rw [← hawaiting, ← houtcome]
  have hcontrol : ({ s.control with
      interrupted := false, mode, alive := true, position := Position.unknown } : Control) =
      s.shift.control s.control.read.abandoned
        { Control.initial setup.info.lineCount with
          breakpoints := s.control.breakpoints, mode, alive := true } := by
    simpa [Shift.control, System.shift, Control.initial, ReadState.initial] using hread
  change Shift.still.system Leftover.none (System.promise _ _ _) =
    s.shift.system _ (System.promise { s.renewed setup with
      control := { Control.initial setup.info.lineCount with
        breakpoints := s.control.breakpoints, mode, alive := true } } _ _)
  rw [← Shift.still.promise_system, ← s.shift.promise_system, Shift.thread_still]
  refine congrArg (System.promise · _ _) ?_
  simp [Shift.system, System.renewed, System.initial, Leftover.none, ha, htasks, ← hcontrol]

/-- **A run does and shows the same, whatever runs have gone before**, as long as there are tickets
for all reads. -/
theorem Trail.renewal {directory : String}
    (hp : Trail setup (System.initial setup directory) p s) (hfew : HasTickets p)
    (hidle : s.control.alive = false) (hdone : ∀ task ∈ s.tasks, task.point = .done)
    (ha : s.aborted = false) {n : ℕ} (hn : s.isBusy (.controller n) = false) (args : List String)
    (mode : DebugMode) :
    ∃ s₁ f₁, s.step setup (.act (.controller n) (.start args mode)) = some s₁ ∧
      (s.renewed setup).step setup (.act (.controller n) (.start args mode)) = some f₁ ∧
      s₁.control.isRunning = true ∧ Renewal setup s.shift p s₁ f₁ := by
  have hmay : s.mayAct (.controller n) = true := by simp [System.mayAct, hn]
  have hs : s.step setup (.act (.controller n) (.start args mode)) =
      some (s.act (.controller n) (.start args mode)) := by rw [System.step_act ha, if_pos hmay]
  have hf : (s.renewed setup).step setup (.act (.controller n) (.start args mode)) =
    some ((s.renewed setup).act (.controller n) (.start args mode)) := rfl
  have hdeparts : Departs s.shift p (s.act (.controller n) (.start args mode))
      ((s.renewed setup).act (.controller n) (.start args mode)) :=
    { linked := hp.linked_start hfew hidle hdone hs hf
      tickets := hp.toNat_ticket rfl hfew
      ticket := rfl
      tasks := rfl
      aborted := by simp [System.act, Control.start, hidle, System.promise, ha] }
  refine ⟨_, _, hs, hf, ?_, hdeparts.renews⟩
  simp [System.act, Control.start, hidle, System.promise, Control.isRunning]

/-- A run whose read is abandoned by a resume, and which is interrupted after that. The handle of
the read is never settled, and the notification of the resume does not arrive. -/
def unansweredRun : List (Label Unit) :=
  toBody .stopped ++ [.call 0 (.read .integer fun _ => ()), .advance 0 0, .returned 0, .advance 0 0,
    .advance 0 0, .advance 0 0, .advance 0 0, .act (.controller 1) (.resume .stopped), .wake 0,
    .advance 0 0, .advance 0 0, .advance 0 0, .advance 0 0, .act (.controller 2) .interrupt,
    .complete (.controller 2), .call 0 (.finish (.ok ())), .advance 0 0, .advance 0 0, .advance 0 0,
    .advance 0 0, .advance 0 0]

theorem renewal_unansweredRun :
    let setup : Setup Unit := Setup.bare ()
    let start : Label Unit := .act (.controller 0) (.start [] .stepInto)
    ∃ s, (System.initial setup "").steps setup unansweredRun = some s ∧
      s.control.interrupted = true ∧ s.control.generation = 1 ∧
      s.control.read = ⟨false, true, 1, .pending⟩ ∧ s.handles = [1] ∧
      s.inFlight.map Prod.fst = [.controller 1] ∧
      ∃ s₁ f₁, s.step setup start = some s₁ ∧ (s.renewed setup).step setup start = some f₁ ∧
        s₁.control.isRunning = true ∧
        Renewal setup s.shift ((System.initial setup "").moments setup unansweredRun) s₁ f₁ :=
  ⟨_, rfl, rfl, rfl, rfl, rfl, rfl,
    Trail.renewal (trail_of_steps
      (show (System.initial (Setup.bare ()) "").steps _ unansweredRun = some _ from rfl))
      (by decide) rfl (List.forall_mem_singleton.2 rfl) rfl rfl [] .stepInto⟩

end RunControl
