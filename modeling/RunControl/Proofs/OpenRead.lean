import RunControl.Proofs.Orderly

/-!
# The read in progress

At any moment at most one read is open. Its worker holds the latest ticket, and outside reads the
state of the read is at rest.

* `Acted.read_cases`, `Turn.read_cases`: what a call and a turn do to the state of the read;
* `OpenRead`: what every step keeps of it;
* **`Reachable.openRead`**: this holds of every state in which a supervisor can be;
* **`Trail.ticket_eq`**, `HasTickets`, **`Trail.counted`**: tickets count the reads, in 64 bits.
-/

namespace RunControl

variable {κ : Type}

/-- **What every step keeps of the state of the read.** While one is open, a worker is in it. -/
structure OpenRead (s : System κ) : Prop where
  reader : s.control.read.awaiting = true → ∃ run f, s.phase? run = some f ∧ f.isReading = true
  awaiting : ∀ {run f}, s.phase? run = some f → f.isReading = true →
    s.control.read.awaiting = true
  ticket : ∀ {run ask}, s.phase? run = some (.reading ask) →
    ask.ticket = s.control.read.ticket
  outcome : s.control.read.awaiting = false → s.control.read.outcome = .pending

variable {setup : Setup κ} {s₀ s s' : System κ} {m : List (Moment κ)} {l : Label κ}

section Step

variable {c c' : Control} {hs hs' : List UInt64} {run : RunId} {q q' : Point κ} {a : Action}
  {owed : Option Pending}

/-- A call neither opens nor closes a read, and touches only an open one. -/
theorem Acted.read_cases (h : Acted c hs a c' hs' owed) :
    c'.read.awaiting = c.read.awaiting ∧ c'.read.ticket = c.read.ticket ∧
      (c.read.awaiting = false → c'.read = c.read) := by
  cases h with
  | start hc =>
    rw [(Control.start_eq_some_iff.1 hc).2]
    exact ⟨rfl, rfl, fun _ => rfl⟩
  | resume hc =>
    rw [(Control.resume_eq_some_iff.1 hc).2]
    by_cases ha : c.read.awaiting = true <;> simp [ha]
  | interrupt hc =>
    rw [(Control.interrupt_eq_some_iff.1 hc).2]
    exact ⟨rfl, rfl, fun _ => rfl⟩
  | settle _ hc =>
    obtain ⟨⟨ha, -, -⟩, rfl⟩ := Control.settle_eq_some_iff.1 hc
    exact ⟨rfl, rfl, fun h => absurd ha (by simp [h])⟩
  | late | activate | other => exact ⟨rfl, rfl, fun _ => rfl⟩

/-- A turn leaves the read alone, opens one, takes the answer or closes it. -/
theorem Turn.read_cases (h : Turn run l c hs q c' hs' q') :
    (c'.read = c.read ∧ q'.phase.isReading = q.phase.isReading ∧
        ∀ ask, q'.phase = .reading ask → q.phase = .reading ask) ∨
      (c'.read = ⟨true, false, c.read.ticket + 1, .pending⟩ ∧ q.phase.isOver = false ∧
        ∃ ask, q'.phase = .reading ask ∧ ask.ticket = c.read.ticket + 1) ∨
      (c'.read.awaiting = c.read.awaiting ∧ c'.read.ticket = c.read.ticket ∧
        q.phase.isReading = true ∧ ∃ exit, q'.phase = .closing exit) ∨
      (c'.read = { c.read with awaiting := false, outcome := .pending } ∧
        q.phase.isReading = true ∧ q'.phase.isReading = false) := by
  cases h with
  | pass hp => exact .inl ⟨rfl, hp.moves.isReading, fun ask hq => (hq ▸ hp.moves).eq_reading⟩
  | openRead ho =>
    refine .inr (.inl ?_)
    rw [(Control.openRead_eq_some_iff.1 ho).2]
    exact ⟨rfl, rfl, _, rfl, rfl⟩
  | park => exact .inl ⟨rfl, by rw [Point.phase_sleep], fun ask hq => by rwa [← Point.phase_sleep]⟩
  | take hp =>
    refine .inr (.inr (.inl
      ⟨Control.awaiting_takeAnswer _, Control.ticket_takeAnswer _, ?_, _, rfl⟩))
    rcases hp with rfl | rfl <;> rfl
  | unwind hp => exact .inr (.inr (.inl ⟨rfl, rfl, by rw [hp]; rfl, _, rfl⟩))
  | @close _ _ exit => exact .inr (.inr (.inr ⟨rfl, rfl, by cases exit <;> rfl⟩))
  | report | pause | release | finish => exact .inl ⟨rfl, rfl, fun _ hq => nomatch hq⟩
  | request => exact .inl ⟨rfl, rfl, fun _ hq => hq⟩

end Step

namespace OpenRead

theorem initial (directory : String) : OpenRead (System.initial setup directory) where
  reader h := by simp [System.initial, Control.initial, ReadState.initial] at h
  awaiting h := by simp [System.phase?, System.point?, System.initial] at h
  ticket h := by simp [System.phase?, System.point?, System.initial] at h
  outcome _ := rfl

theorem of_kept (hr : OpenRead s) (ha : s'.control.read.awaiting = s.control.read.awaiting)
    (hk : s'.control.read.ticket = s.control.read.ticket)
    (hread : s.control.read.awaiting = false → s'.control.read = s.control.read)
    (hto : ∀ {run f}, s.phase? run = some f → f.isReading = true →
      ∃ f', s'.phase? run = some f' ∧ f'.isReading = true)
    (hof : ∀ {run f'}, s'.phase? run = some f' → f'.isReading = true →
      ∃ f, s.phase? run = some f ∧ f.isReading = true ∧
        ∀ ask, f' = .reading ask → f = .reading ask) : OpenRead s' where
  reader h := by
    obtain ⟨run, f, hf, hreading⟩ := hr.reader (ha ▸ h)
    exact ⟨run, hto hf hreading⟩
  awaiting hf' hreading := by
    obtain ⟨f, hf, hreading, -⟩ := hof hf' hreading
    rw [ha, hr.awaiting hf hreading]
  ticket hf' := by
    obtain ⟨f, hf, -, hask⟩ := hof hf' rfl
    rw [hk, hr.ticket (hask _ rfl ▸ hf)]
  outcome h := by
    rw [ha] at h
    rw [hread h, hr.outcome h]

theorem step_other (hr : OpenRead s) (h : System.Stepped s s' l) (hl : l.worker? = none) :
    OpenRead s' := by
  have hread : s'.control.read.awaiting = s.control.read.awaiting ∧
      s'.control.read.ticket = s.control.read.ticket ∧
      (s.control.read.awaiting = false → s'.control.read = s.control.read) := by
    cases h with
    | act _ ha _ _ => exact ha.read_cases
    | notify _ hc | submit _ hc | wake _ _ hc => rw [hc]; exact ⟨rfl, rfl, fun _ => rfl⟩
    | turn hl' _ => simp [hl] at hl'
  have hphase (run : RunId) : s'.phase? run = s.phase? run ∨ s.tasks.length = run ∧
      s.phase? run = none ∧ s'.phase? run = some .busy := h.phase?_eq (by simp [hl])
  refine hr.of_kept hread.1 hread.2.1 hread.2.2 (fun {run f} hf hreading => ?_)
    fun {run f'} hf' hreading => ?_
  · obtain he | ⟨-, hnone, -⟩ := hphase run
    · exact ⟨f, by rw [he, hf], hreading⟩
    · rw [hnone] at hf
      cases hf
  · obtain he | ⟨-, -, hbusy⟩ := hphase run
    · exact ⟨f', by rw [← he, hf'], hreading, fun _ h => h⟩
    · obtain rfl : Phase.busy = f' := Option.some.inj (hbusy.symm.trans hf')
      cases hreading

section Turned

variable {run : RunId} {t : Task κ} {p : Point κ}

theorem of_turned (hr : OpenRead s) (h : System.Turned run l t p s s')
    (ha : s'.control.read.awaiting = s.control.read.awaiting)
    (hk : s'.control.read.ticket = s.control.read.ticket)
    (hread : s.control.read.awaiting = false → s'.control.read = s.control.read)
    (hreading : p.phase.isReading = t.point.phase.isReading)
    (hask : ∀ ask, p.phase = .reading ask → t.point.phase = .reading ask) : OpenRead s' := by
  obtain ⟨hp, hp'⟩ := h.phase?
  refine hr.of_kept ha hk hread (fun {r f} hf hf' => ?_) fun {r f'} hf' hf'' => ?_
  · by_cases hne : r = run
    · subst hne
      obtain rfl := Option.some.inj (hp.symm.trans hf)
      exact ⟨_, hp', by rw [hreading, hf']⟩
    · exact ⟨f, by rw [h.phase?_of_ne hne, hf], hf'⟩
  · by_cases hne : r = run
    · subst hne
      obtain rfl := Option.some.inj (hp'.symm.trans hf')
      exact ⟨_, hp, by rw [← hreading, hf''], hask⟩
    · exact ⟨f', by rw [← h.phase?_of_ne hne, hf'], hf'', fun _ h => h⟩

theorem of_opened (ho : Orderly s) (h : System.Turned run l t p s s') {ask : Ask κ}
    (hread : s'.control.read = ⟨true, false, s.control.read.ticket + 1, .pending⟩)
    (halive : t.point.phase.isOver = false) (hask : p.phase = .reading ask)
    (hk : ask.ticket = s.control.read.ticket + 1) : OpenRead s' := by
  obtain ⟨hp, hp'⟩ := h.phase?
  refine ⟨fun _ => ⟨run, _, hp', by rw [hask]; rfl⟩, fun _ _ => by rw [hread], ?_, fun hfalse => ?_⟩
  · intro r ask' hr'
    by_cases hne : r = run
    · subst hne
      have heq := hp'.symm.trans hr'
      rw [hask] at heq
      obtain rfl : ask = ask' := by simpa using heq
      rw [hk, hread]
    · rw [h.phase?_of_ne hne] at hr'
      exact absurd (ho.eq_of_phase hr' rfl hp halive) hne
  · rw [hread] at hfalse
    cases hfalse

theorem of_closed (ho : Orderly s) (h : System.Turned run l t p s s')
    (hread : s'.control.read = { s.control.read with awaiting := false, outcome := .pending })
    (hreading : t.point.phase.isReading = true) (hnot : p.phase.isReading = false) :
    OpenRead s' := by
  obtain ⟨hp, hp'⟩ := h.phase?
  have hnone {r : RunId} {f : Phase κ} (hf : s'.phase? r = some f) : ¬ f.isReading = true := by
    intro hf'
    by_cases hne : r = run
    · subst hne
      obtain rfl := Option.some.inj (hp'.symm.trans hf)
      exact absurd hf' (by simp [hnot])
    · rw [h.phase?_of_ne hne] at hf
      exact hne (ho.eq_of_phase hf (Phase.isOver_eq_false_of_isReading hf') hp
        (Phase.isOver_eq_false_of_isReading hreading))
  refine ⟨fun htrue => ?_, fun hf h => absurd h (hnone hf), fun hf => absurd rfl (hnone hf),
    fun _ => by rw [hread]⟩
  rw [hread] at htrue
  cases htrue

theorem step_turn (ho : Orderly s) (hr : OpenRead s) (h : System.Turned run l t p s s') :
    OpenRead s' := by
  obtain ⟨hread, hreading, hask⟩ | ⟨hread, halive, ask, hask, hk⟩ |
    ⟨ha, hk, hreading, exit, hclosing⟩ | ⟨hread, hreading, hnot⟩ := h.turn.read_cases
  · exact hr.of_turned h (by rw [hread]) (by rw [hread]) (fun _ => hread) hreading hask
  · exact of_opened ho h hread halive hask hk
  · refine hr.of_turned h ha hk (fun hfalse => ?_) (by rw [hclosing, hreading]; rfl) fun ask h => ?_
    · rw [hr.awaiting h.phase?.1 hreading] at hfalse
      cases hfalse
    · cases hclosing.symm.trans h
  · exact of_closed ho h hread hreading hnot

end Turned

theorem step (ho : Orderly s) (hr : OpenRead s) (h : s.step setup l = some s') : OpenRead s' := by
  have hst := System.stepped_of_step h
  cases hl : l.worker? with
  | none => exact hr.step_other hst hl
  | some run =>
    obtain ⟨t, p, ht⟩ := System.turned_of_step hl h
    exact step_turn ho hr ht

end OpenRead

/-- **The read in progress is in order in every state in which a supervisor can be.** -/
theorem Reachable.openRead (hr : Reachable setup s) : OpenRead s := by
  have h : Orderly s ∧ OpenRead s :=
    hr.invariant (I := fun s => Orderly s ∧ OpenRead s)
      (fun directory => ⟨.initial directory, .initial directory⟩)
      fun ⟨ho, hread⟩ h => ⟨ho.step h, .step ho hread h⟩
  exact h.2

/-- While nobody is alive, no read is open and none has left an outcome behind. -/
theorem Reachable.read_at_rest (hr : Reachable setup s) (ha : s.control.alive = false) :
    s.control.read.awaiting = false ∧ s.control.read.outcome = .pending := by
  have hawaiting : s.control.read.awaiting = false := by
    by_contra hopen
    obtain ⟨run, f, hf, hreading⟩ := hr.openRead.reader (by simpa using hopen)
    have halive := hr.orderly.alive_of_phase hf (Phase.isOver_eq_false_of_isReading hreading)
    rw [ha] at halive
    cases halive
  exact ⟨hawaiting, hr.openRead.outcome hawaiting⟩

/-! ## Tickets -/

section Step

variable {c c' : Control} {hs hs' : List UInt64} {run : RunId} {q q' : Point κ} {a : Action}
  {owed : Option Pending}

theorem Acted.handles_subset (h : Acted c hs a c' hs' owed) : hs' ⊆ hs := by
  cases h with
  | settle | late => exact List.erase_subset
  | _ => exact List.Subset.refl _

theorem Turn.handles_cases (h : Turn run l c hs q c' hs' q') :
    hs' = hs ∨ ∃ ask, q = .requesting ask ∧ hs' = hs ++ [ask.ticket] := by
  cases h with
  | request => exact .inr ⟨_, rfl, rfl⟩
  | _ => exact .inl rfl

theorem Turn.ticket (h : Turn run l c hs q c' hs' q') (hl : ∀ call, l ≠ .call run call) :
    c'.read.ticket = c.read.ticket := by
  cases h with
  | openRead => exact absurd rfl (hl _)
  | take => exact Control.ticket_takeAnswer _
  | _ => rfl

theorem System.Called.ticket {call : Call κ} {s₁ : System κ} (h : s.Called setup call s₁ q) :
    s₁.control.read.ticket =
      s.control.read.ticket + if (Moment.mk s (.call run call)).opens then 1 else 0 := by
  cases h with
  | openRead ho =>
    rw [(Control.openRead_eq_some_iff.1 ho).2, Moment.opens, ho]
    rfl
  | refuseRead ho =>
    rw [Moment.opens, ho]
    exact (UInt64.add_zero _).symm
  | _ => exact (UInt64.add_zero _).symm

end Step

theorem Moment.opens_of_not_call (hl : ∀ run call, l ≠ .call run call) :
    (Moment.mk s l).opens = false := by
  cases l with
  | call run c => exact absurd rfl (hl run c)
  | _ => rfl

/-- **A step that opens a read takes the next ticket**, and no other step takes one. -/
theorem ticket_of_step (h : s.step setup l = some s') :
    s'.control.read.ticket =
      s.control.read.ticket + if (Moment.mk s l).opens then 1 else 0 := by
  by_cases hl : ∃ run call, l = .call run call
  · obtain ⟨run, call, rfl⟩ := hl
    obtain ⟨task, s₁, q, -, rfl, htakes⟩ := System.takes_of_step rfl h
    generalize task.point = state at htakes
    cases htakes with
    | called hcalled => exact hcalled.ticket
  · have hnot (run : RunId) (call : Call κ) : l ≠ .call run call := fun he => hl ⟨run, call, he⟩
    rw [Moment.opens_of_not_call hnot, if_neg Bool.false_ne_true, UInt64.add_zero]
    cases System.stepped_of_step h with
    | act _ ha => exact ha.read_cases.2.1
    | notify _ hc | submit _ hc | wake _ _ hc => rw [hc]
    | turn _ ht => exact ht.turn.ticket (hnot _)

/-- **The latest ticket counts the reads**, in 64 bits. -/
theorem Trail.ticket_eq (hm : Trail setup s₀ m s) :
    s.control.read.ticket = s₀.control.read.ticket + UInt64.ofNat (m.countP Moment.opens) := by
  induction hm with
  | nil => simp
  | cons _ hs ih =>
    rw [ticket_of_step hs, ih, List.countP_cons]
    split_ifs <;> simp [UInt64.ofNat_add, UInt64.add_assoc]

/-- There is a ticket for each of the reads, and for one more. -/
def HasTickets (m : List (Moment κ)) : Prop := m.countP Moment.opens + 1 < UInt64.size

instance (m : List (Moment κ)) : Decidable (HasTickets m) :=
  inferInstanceAs (Decidable (m.countP Moment.opens + 1 < UInt64.size))

theorem HasTickets.of_cons {x : Moment κ} (h : HasTickets (x :: m)) : HasTickets m := by
  unfold HasTickets at h ⊢
  rw [List.countP_cons] at h
  omega

theorem toNat_ticket_of_step (h : s.step setup l = some s')
    (hlt : s.control.read.ticket.toNat + 1 < UInt64.size) :
    s'.control.read.ticket.toNat =
      s.control.read.ticket.toNat + if (Moment.mk s l).opens then 1 else 0 := by
  rw [ticket_of_step h]
  split_ifs
  · rw [UInt64.toNat_add, UInt64.toNat_one, Nat.mod_eq_of_lt hlt]
  · rw [UInt64.add_zero, Nat.add_zero]

theorem Trail.toNat_ticket (hm : Trail setup s₀ m s) (h₀ : s₀.control.read.ticket = 0)
    (hfew : HasTickets m) : s.control.read.ticket.toNat = m.countP Moment.opens := by
  rw [hm.ticket_eq, h₀, UInt64.zero_add]
  exact UInt64.toNat_ofNat_of_lt' (Nat.lt_of_succ_lt hfew)

/-- Tickets are counted from one, and have not wrapped around. -/
structure Counted (s : System κ) : Prop where
  awaiting : s.control.read.awaiting = true → 0 < s.control.read.ticket.toNat
  handles : ∀ k ∈ s.handles, 0 < k.toNat ∧ k.toNat ≤ s.control.read.ticket.toNat

namespace Counted

theorem initial (directory : String) : Counted (System.initial setup directory) where
  awaiting h := by simp [System.initial, Control.initial, ReadState.initial] at h
  handles k hk := by simp [System.initial] at hk

theorem step_turn {run : RunId} {t : Task κ} {q : Point κ} (hs : Counted s) (ho : OpenRead s)
    (h : System.Turned run l t q s s')
    (hle : s.control.read.ticket.toNat ≤ s'.control.read.ticket.toNat) : Counted s' := by
  refine ⟨fun hopen => ?_, fun k hk => ?_⟩
  · obtain ⟨hread, -⟩ | ⟨hread, -⟩ | ⟨hawaiting, hticket, -⟩ | ⟨hread, -⟩ := h.turn.read_cases
    · rw [hread] at hopen ⊢
      exact hs.awaiting hopen
    · -- the ticket would be zero only after the largest one, which it is not below
      rw [hread, UInt64.toNat_add] at hle ⊢
      have hone : (1 : UInt64).toNat = 1 := rfl
      omega
    · rw [hticket]
      exact hs.awaiting (hawaiting ▸ hopen)
    · rw [hread] at hopen
      cases hopen
  · have hkept (hk : k ∈ s.handles) : 0 < k.toNat ∧ k.toNat ≤ s'.control.read.ticket.toNat :=
      ⟨(hs.handles k hk).1, Nat.le_trans (hs.handles k hk).2 hle⟩
    obtain hh | ⟨ask, hq, hh⟩ := h.turn.handles_cases
    · exact hkept (hh ▸ hk)
    · rw [hh, List.mem_append, List.mem_singleton] at hk
      obtain hk | rfl := hk
      · exact hkept hk
      · have hphase := h.phase?.1
        rw [hq] at hphase
        rw [ho.ticket hphase]
        exact ⟨hs.awaiting (ho.awaiting hphase rfl), hle⟩

theorem step (hs : Counted s) (ho : OpenRead s) (h : s.step setup l = some s')
    (hle : s.control.read.ticket.toNat ≤ s'.control.read.ticket.toNat) : Counted s' := by
  cases System.stepped_of_step h with
  | act _ ha =>
    obtain ⟨hawaiting, hticket, -⟩ := ha.read_cases
    exact ⟨fun hopen => hticket ▸ hs.awaiting (hawaiting ▸ hopen),
      fun k hk => hticket ▸ hs.handles k (ha.handles_subset hk)⟩
  | notify _ hc hh | submit _ hc hh | wake _ _ hc hh =>
    exact ⟨hc ▸ hs.awaiting, hh ▸ hc ▸ hs.handles⟩
  | turn _ ht => exact hs.step_turn ho ht hle

theorem fresh (hs : Counted s) (h : s.control.read.ticket.toNat + 1 < UInt64.size) :
    s.control.read.ticket + 1 ∉ s.handles := by
  intro hmem
  have hle := (hs.handles _ hmem).2
  rw [UInt64.toNat_add, UInt64.toNat_one, Nat.mod_eq_of_lt h] at hle
  exact Nat.not_succ_le_self _ hle

end Counted

/-- **Tickets are counted from one as long as there are enough.** -/
theorem Trail.counted {directory : String} (hm : Trail setup (System.initial setup directory) m s)
    (hfew : HasTickets m) : Counted s := by
  induction hm with
  | nil => exact .initial directory
  | @cons m s s' l hm hs ih =>
    refine (ih hfew.of_cons).step hm.reachable.openRead hs ?_
    rw [hm.toNat_ticket rfl hfew.of_cons, (hm.cons hs).toNat_ticket rfl hfew, List.countP_cons]
    exact Nat.le_add_right _ _

end RunControl
