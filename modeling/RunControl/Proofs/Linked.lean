import RunControl.Proofs.Shift

/-!
# A supervisor after runs, and one before its first run

Two systems in other numbers, one of them with what earlier runs have left behind, stay so: a step
of one is a step of the other, unless it is about what is left over.

* `Shift.Twins`: a step of the one and the same step of the other;
* `Linked`: the states of the two;
* `Linked.same`, `Linked.stale`, `Linked.late`: the steps that keep them linked;
* **`Linked.step_cases`**: every step of the reused supervisor is one of these.
-/

namespace RunControl

variable {κ : Type} {setup : Setup κ} {s s' s₁ f f' f₁ : System κ} {d : Shift} {left : Leftover κ}
  {l l' : Label κ} {run : RunId}

/-- Nothing is left over. -/
def Leftover.none : Leftover κ := ⟨[], [], [], false⟩

namespace Shift

/-- The step `l'` of a reused supervisor is the step `l` of a fresh one, whatever a clock shows, and
is not of a thread that an earlier call keeps busy. -/
structure Twins (d : Shift) (s f : System κ) (l' l : Label κ) : Prop where
  label : still.label l' = d.label l
  caller : ∀ t, l.caller? = some t → s.isBusy (d.thread t) = f.isBusy t

end Shift

/-! ## The same numbers -/

namespace Shift

@[simp] theorem thread_controller (d : Shift) (n : ℕ) :
    d.thread (.controller n) = .controller n := rfl

@[simp] theorem thread_still (t : Thread) : still.thread t = t := by
  cases t <;> simp [still, thread]

@[simp] theorem tickets_still : still.tickets = 0 := rfl

@[simp] theorem action_still (a : Action) : still.action a = a := by
  cases a <;> simp [still, action]

@[simp] theorem control_still (c : Control) : still.control false c = c := by
  simp [still, control]

theorem clear_still : still.Clear (Leftover.none : Leftover κ) := by
  constructor <;> simp [still, Leftover.none]

theorem apart_still (l : Label κ) : still.Apart Leftover.none l := by
  constructor <;> simp [Leftover.none]

theorem step_still (hs : Sound s) (l : Label κ) :
    (still.system Leftover.none s).step setup (still.label l) =
      (s.step setup l).map (still.system Leftover.none) :=
  still.step_system clear_still hs.openRead (.of_false _) (apart_still l)

end Shift

/-! ## What is left over -/

namespace Shift

variable (d : Shift)

/-- There is a ticket for every read, one more included. -/
def HasRoom (f : System κ) : Prop :=
  d.tickets.toNat + f.control.read.ticket.toNat + 1 < UInt64.size

theorem HasRoom.numbered (hroom : d.HasRoom f) (hf : Counted f) (abandoned : Bool) :
    Numbered abandoned f.control where
  current _ hopen hzero := by
    have hpos := hf.awaiting hopen
    rw [hzero] at hpos
    exact Nat.lt_irrefl 0 hpos
  next _ hzero := by
    have hone := congrArg UInt64.toNat hzero
    rw [UInt64.toNat_add, UInt64.toNat_one, UInt64.toNat_zero] at hone
    unfold HasRoom UInt64.size at hroom
    omega

theorem HasRoom.not_le (hroom : d.HasRoom f) {k : UInt64} (hpos : 0 < k.toNat)
    (hk : k.toNat ≤ f.control.read.ticket.toNat) : ¬ d.tickets + k ≤ d.tickets := by
  unfold HasRoom UInt64.size at hroom
  rw [UInt64.le_iff_toNat_le, UInt64.toNat_add]
  omega

theorem act_stale (hs : Counted s) (hroom : d.HasRoom s) {k : UInt64} (hk : k ≤ d.tickets)
    (t : Thread) (answer : Option Value) : (d.system left s).act t (.settle k answer) =
      d.system { left with stale := left.stale.erase k } s := by
  have hsettle : (d.system left s).control.settle k answer = none := by
    refine Option.eq_none_iff_forall_not_mem.2 fun c hc => ?_
    obtain ⟨⟨hopen, hticket, -⟩, -⟩ := Control.settle_eq_some_iff.1 hc
    have hticket : d.tickets + s.control.read.ticket = k := hticket
    exact hroom.not_le d (hs.awaiting hopen) (Nat.le_refl _) (hticket ▸ hk)
  have hown : k ∉ s.handles.map fun k => d.tickets + k := by
    simp only [List.mem_map, not_exists, not_and]
    rintro j hj rfl
    exact hroom.not_le d (hs.handles j hj).1 (hs.handles j hj).2 hk
  simp only [System.act, hsettle]
  by_cases hmem : k ∈ left.stale
  · have hin : k ∈ (d.system left s).handles := List.mem_append_left _ hmem
    rw [if_pos hin]
    simp [system, List.erase_append_left _ hmem]
  · have hnot : k ∉ (d.system left s).handles := by
      simp only [system, List.mem_append, hmem, hown, or_self, not_false_eq_true]
    rw [if_neg hnot, List.erase_of_not_mem hmem]

end Shift

/-- **The states of a reused supervisor and of a fresh one**: the same in other numbers, but for
what is left over. -/
structure Linked (d : Shift) (left : Leftover κ) (s f : System κ) : Prop where
  clear : d.Clear left
  clock : d.clock = fun _ => 0
  reused : Sound s
  fresh : Sound f
  counted : Counted f
  room : d.HasRoom f
  eq : Shift.still.system Leftover.none s = d.system left f

namespace Linked

theorem inFlight (h : Linked d left s f) :
    s.inFlight = left.late ++ f.inFlight.map fun p => (d.thread p.1, p.2) := by
  have he := congrArg System.inFlight h.eq
  simpa [Shift.system, Leftover.none] using he

theorem control (h : Linked d left s f) : s.control = d.control left.abandoned f.control := by
  have he := congrArg System.control h.eq
  simpa [Shift.system, Leftover.none] using he

theorem aborted (h : Linked d left s f) : s.aborted = f.aborted := by
  have he := congrArg System.aborted h.eq
  exact he

theorem point_still (r : RunId) :
    (Shift.still.system Leftover.none s).point? r = (s.point? r).map Shift.still.point := by
  have h := Shift.still.point?_system Shift.clear_still r (s := s)
  rwa [Shift.still, Nat.zero_add] at h

theorem point (h : Linked d left s f) (run : RunId) :
    (s.point? (d.runs + run)).map Shift.still.point = (f.point? run).map d.point := by
  rw [← point_still, h.eq, d.point?_system h.clear]

theorem earlier (h : Linked d left s f) {r : RunId} (hr : r < d.runs) :
    s.point? r = some .done := by
  have hlt : r < left.tasks.length := h.clear.runs ▸ hr
  have hstill : (s.point? r).map Shift.still.point = some .done := by
    rw [← point_still, h.eq, System.point?, Shift.system, List.getElem?_append_left hlt,
      List.getElem?_eq_getElem hlt, Option.map_some, h.clear.done _ (List.getElem_mem hlt)]
  obtain ⟨q, hq, hdone⟩ := Option.map_eq_some_iff.1 hstill
  cases q <;> first | exact hq | cases hdone

theorem runs_le (h : Linked d left s f) {r : RunId} {q : Point κ} (hq : s.point? r = some q)
    (hne : q ≠ .done) : d.runs ≤ r := by
  by_contra hlt
  exact hne (Option.some.inj (hq.symm.trans (h.earlier (Nat.lt_of_not_le hlt))))

theorem isBusy_eq (h : Linked d left s f) (t : Thread) :
    s.isBusy t = (d.system left f).isBusy t := by
  rw [System.isBusy, h.inFlight]
  rfl

theorem isBusy (h : Linked d left s f) {t : Thread} (hf : f.isBusy t = true) :
    s.isBusy (d.thread t) = true := by
  rw [System.isBusy, h.inFlight, List.any_append, Bool.or_eq_true, List.any_map]
  refine .inr (List.any_eq_true.2 ?_)
  obtain ⟨p, hp, ht⟩ := List.any_eq_true.1 hf
  have ht : p.1 = t := by simpa using ht
  exact ⟨p, hp, by simp [ht]⟩

theorem not_late (h : Linked d left s f) {t : Thread}
    (ht : s.isBusy (d.thread t) = f.isBusy t) : ∀ p ∈ left.late, p.1 ≠ d.thread t := by
  intro p hp hpt
  have hbusy : s.isBusy (d.thread t) = true := by
    rw [System.isBusy, h.inFlight, List.any_append, Bool.or_eq_true]
    exact .inl (List.any_eq_true.2 ⟨p, hp, by simp [hpt]⟩)
  -- the thread would owe two second steps
  obtain ⟨q, hq, hqt⟩ := List.any_eq_true.1 (ht ▸ hbusy)
  have hkeys := h.reused.orderly.keys
  rw [h.inFlight, List.map_append, List.nodup_append] at hkeys
  refine hkeys.2.2 _ (List.mem_map_of_mem hp) (d.thread t) ?_ hpt
  refine List.mem_map.2 ⟨(d.thread q.1, q.2), List.mem_map_of_mem hq, ?_⟩
  have hqt : q.1 = t := by simpa using hqt
  simp [hqt]

/-! ### Both take the same step -/

theorem step_eq (h : Linked d left s f) (hl : d.Twins s f l' l) (setup : Setup κ) :
    ∃ left', left'.late = left.late ∧ d.Clear left' ∧
      (s.step setup l').map (Shift.still.system Leftover.none) =
        (f.step setup l).map (d.system left') := by
  have hcaller t ht := h.not_late (hl.caller t ht)
  rw [← Shift.step_still h.reused, hl.label, h.eq]
  by_cases hstale : ∃ t k answer, l = .act t (.settle k answer) ∧ d.tickets + k ∈ left.stale
  · -- it is no handle of the new run, whose tickets follow
    obtain ⟨t, k, answer, rfl, hmem⟩ := hstale
    have hle := h.clear.stale _ hmem
    have hnot : k ∉ f.handles := fun hk =>
      h.room.not_le d (h.counted.handles k hk).1 (h.counted.handles k hk).2 hle
    refine ⟨{ left with stale := left.stale.erase (d.tickets + k) }, rfl, ⟨h.clear.runs,
      h.clear.done, h.clear.late, fun k hk => h.clear.stale k (List.mem_of_mem_erase hk)⟩, ?_⟩
    cases ha : f.aborted with
    | true =>
      rw [System.step_of_aborted ha, System.step_of_aborted (s := d.system left f) ha]
      rfl
    | false =>
      rw [System.step_act ha, Shift.label, System.step_act (s := d.system left f) ha,
        d.mayAct_system h.clear (hcaller t rfl), Shift.action, d.act_stale h.counted h.room hle]
      simp only [System.act, if_neg hnot]
      split_ifs <;> rfl
  · simp only [not_exists, not_and] at hstale
    exact ⟨left, rfl, h.clear,
      d.step_system h.clear h.fresh.openRead (h.room.numbered d h.counted _) ⟨hcaller, hstale⟩⟩

/-- **A step is possible on one side when it is on the other.** -/
theorem isSome_step (h : Linked d left s f) (hl : d.Twins s f l' l) (setup : Setup κ) :
    (s.step setup l').isSome = (f.step setup l).isSome := by
  obtain ⟨left', -, -, he⟩ := h.step_eq hl setup
  simpa using congrArg Option.isSome he

/-- **The same step on both sides leads to states that are the same again.** -/
theorem same (h : Linked d left s f) (hl : d.Twins s f l' l) (hs : s.step setup l' = some s')
    (hf : f.step setup l = some f')
    (hle : f.control.read.ticket.toNat ≤ f'.control.read.ticket.toNat) (hroom : d.HasRoom f') :
    ∃ left', left'.late = left.late ∧ Linked d left' s' f' := by
  obtain ⟨left', hlate, hclear, he⟩ := h.step_eq hl setup
  rw [hs, hf] at he
  exact ⟨left', hlate, hclear, h.clock, h.reused.step hs, h.fresh.step hf,
    h.counted.step h.fresh.openRead hf hle, hroom, Option.some.inj he⟩

/-! ### A handle of an earlier run is settled -/

theorem stale (h : Linked d left s f) {t : Thread} {k : UInt64} {answer : Option Value}
    (hk : k ≤ d.tickets) (hs : s.step setup (.act t (.settle k answer)) = some s') :
    ∃ left', left'.late = left.late ∧ Linked d left' s' f := by
  refine ⟨{ left with stale := left.stale.erase k }, rfl, ⟨h.clear.runs, h.clear.done,
      h.clear.late, fun k hk => h.clear.stale k (List.mem_of_mem_erase hk)⟩, h.clock,
      h.reused.step hs, h.fresh, h.counted, h.room, ?_⟩
  obtain ⟨-, rfl⟩ := System.act_of_step hs
  have hact : (Shift.still.system Leftover.none s).act (Shift.still.thread t)
      (Shift.still.action (.settle k answer)) =
        Shift.still.system Leftover.none (s.act t (.settle k answer)) :=
    Shift.still.act_system (by simp [Leftover.none]) (.of_false _)
  rw [Shift.thread_still, Shift.action_still] at hact
  rw [← hact, h.eq, d.act_stale h.counted h.room hk]

/-! ### A notification from before the start arrives -/

theorem late_of_busy (h : Linked d left s f) {n : ℕ} (hs : s.isBusy (.controller n) = true)
    (hf : f.isBusy (.controller n) = false) : (.controller n, .notify) ∈ left.late := by
  rw [System.isBusy, h.inFlight, List.any_append, Bool.or_eq_true] at hs
  obtain hlate | hown := hs
  · obtain ⟨p, hp, ht⟩ := List.any_eq_true.1 hlate
    obtain ⟨m, rfl⟩ := h.clear.late p hp
    obtain rfl : m = n := by simpa using ht
    exact hp
  · rw [List.any_map] at hown
    obtain ⟨p, hp, ht⟩ := List.any_eq_true.1 hown
    have ht : d.thread p.1 = d.thread (.controller n) := by simpa using ht
    have ht : p.1 = .controller n := d.thread_inj.1 ht
    rw [System.isBusy, List.any_eq_false] at hf
    exact absurd ht (by simpa using hf p hp)

/-- A notification from before the start wakes the sleepers of the new run. -/
theorem late (h : Linked d left s f) {n : ℕ} (hf : f.isBusy (.controller n) = false)
    (hs : s.step setup (.complete (.controller n)) = some s') :
    Linked d { left with late := left.late.filter fun p => p.1 ≠ .controller n } s'
      (f.finishCall .notify) := by
  have ha : s.aborted = false := System.aborted_of_step hs
  have hfresh : Sound (f.finishCall .notify) := by
    obtain ⟨runs, hruns⟩ : ∃ runs : List RunId,
        f.steps setup (runs.map .wake) = some (f.finishCall .notify) :=
      h.fresh.orderly.steps_rouse rfl (h.aborted ▸ ha)
    exact h.fresh.steps hruns
  have hreused := h.reused.step hs
  rw [System.step_complete ha] at hs
  obtain ⟨⟨u, q⟩, hfind, rfl⟩ := Option.map_eq_some_iff.1 hs
  obtain rfl : u = .controller n := by simpa using List.find?_some hfind
  have hbusy : s.isBusy (.controller n) = true :=
    List.any_eq_true.2 ⟨_, List.mem_of_find?_eq_some hfind, by simp⟩
  have hlate := h.late_of_busy hbusy hf
  obtain rfl : q = .notify := by
    have hmem : (Thread.controller n, Pending.notify) ∈ s.inFlight := by
      rw [h.inFlight]
      exact List.mem_append_left _ hlate
    have hnotify := hfind.symm.trans (h.reused.orderly.find?_inFlight hmem)
    simpa using hnotify
  have hclear : d.Clear { left with late := left.late.filter fun p => p.1 ≠ .controller n } :=
    ⟨h.clear.runs, h.clear.done, fun p hp => h.clear.late p (List.mem_filter.1 hp).1, h.clear.stale⟩
  have hown : (f.inFlight.map fun p => (d.thread p.1, p.2)).filter
      (fun p => p.1 ≠ .controller n) = f.inFlight.map fun p => (d.thread p.1, p.2) := by
    refine List.filter_eq_self.2 fun p hp => ?_
    obtain ⟨q, hq, rfl⟩ := List.mem_map.1 hp
    rw [System.isBusy, List.any_eq_false] at hf
    have hne : q.1 ≠ .controller n := by simpa using hf q hq
    have hne' : d.thread q.1 ≠ d.thread (.controller n) := fun he => hne (d.thread_inj.1 he)
    simpa using hne'
  have hrest : s.inFlight.filter (fun p => p.1 ≠ .controller n) =
      left.late.filter (fun p => p.1 ≠ .controller n) ++
        f.inFlight.map fun p => (d.thread p.1, p.2) := by
    rw [h.inFlight, List.filter_append, hown]
  -- only the calls in flight differ from the state before; the sleepers are woken on both sides
  refine ⟨hclear, h.clock, hreused, hfresh, ⟨h.counted.awaiting, h.counted.handles⟩, h.room, ?_⟩
  rw [← Shift.still.finishCall_system Shift.clear_still, ← d.finishCall_system hclear]
  refine congrArg (System.finishCall · .notify) ?_
  have he (inFlight : List (Thread × Pending)) :=
    congrArg (fun s' : System κ => { s' with inFlight }) h.eq
  refine Eq.trans ?_ (he _)
  simpa [Shift.system, Leftover.none] using hrest

/-! ### Every step is one of these -/

theorem runs_le_of_turn (h : Linked d left s f) {r : RunId} (hl : l'.worker? = some r)
    (hs : s.step setup l' = some s') : d.runs ≤ r := by
  have ha : s.aborted = false := System.aborted_of_step hs
  rw [System.step_turn hl ha] at hs
  obtain ⟨⟨args, q⟩, ht, hs⟩ := Option.bind_eq_some_iff.1 hs
  have htask := (System.freeTask?_eq_some_iff.1 ht).2
  refine h.runs_le (System.point?_eq_some_iff.2 ⟨_, htask, rfl⟩) fun hdone => ?_
  obtain rfl : q = .done := hdone
  cases l' <;> cases hs

theorem exists_turn (h : Linked d left s f) {r : RunId} (hl : l'.worker? = some r)
    (hr : d.runs ≤ r) : ∃ l, Shift.still.label l' = d.label l ∧ l.caller? = none := by
  obtain ⟨run, rfl⟩ := Nat.exists_eq_add_of_le hr
  have hrun : 0 + (d.runs + run) = d.runs + run := Nat.zero_add _
  have hclock := h.clock
  cases l' with
  | act t a | complete t | wake r => cases hl
  | advance r elapsed =>
    obtain rfl := Option.some.inj hl
    exact ⟨.advance run elapsed, by simp [Shift.label, Shift.still, h.clock], rfl⟩
  | call r c =>
    obtain rfl := Option.some.inj hl
    exact ⟨.call run c, congrArg (Label.call · c) hrun, rfl⟩
  | returned r =>
    obtain rfl := Option.some.inj hl
    exact ⟨.returned run, congrArg Label.returned hrun, rfl⟩
  | libraryFailed r error =>
    obtain rfl := Option.some.inj hl
    exact ⟨.libraryFailed run error, congrArg (Label.libraryFailed · error) hrun, rfl⟩
  | sinkFailed r error =>
    obtain rfl := Option.some.inj hl
    exact ⟨.sinkFailed run error, congrArg (Label.sinkFailed · error) hrun, rfl⟩
  | panicked r payload =>
    obtain rfl := Option.some.inj hl
    exact ⟨.panicked run payload, congrArg (Label.panicked · payload) hrun, rfl⟩
  | caught r state =>
    obtain rfl := Option.some.inj hl
    exact ⟨.caught run state, congrArg (Label.caught · state) hrun, rfl⟩

/-- A thread that is free to make a call, or is within one, is a controller or the worker of the new
run or of a later one. -/
theorem exists_thread (h : Linked d left s f) {t : Thread}
    (ht : s.mayAct t = true ∨ s.isBusy t = true) : ∃ u, t = d.thread u := by
  cases t with
  | controller n => exact ⟨.controller n, rfl⟩
  | worker r =>
    have hout : ∃ q, s.point? r = some q ∧ q.isOutside = true := by
      obtain hmay | hbusy := ht
      · obtain ⟨task, htask, hout⟩ := (System.mayAct_iff.1 hmay).2 r rfl
        exact ⟨_, System.point?_eq_some_iff.2 ⟨task, htask, rfl⟩, hout⟩
      · obtain ⟨⟨u, q⟩, hp, hu⟩ := List.any_eq_true.1 hbusy
        obtain rfl : u = .worker r := by simpa using hu
        obtain ⟨task, htask, hout⟩ := h.reused.orderly.outside hp
        exact ⟨_, System.point?_eq_some_iff.2 ⟨task, htask, rfl⟩, hout⟩
    obtain ⟨q, hq, hout⟩ := hout
    obtain ⟨run, rfl⟩ := Nat.exists_eq_add_of_le (h.runs_le hq (by rintro rfl; cases hout))
    exact ⟨.worker run, rfl⟩

/-- **Every step of the reused supervisor is a step of the fresh one, or settles a handle of an
earlier run, or is a notification from before the start.** -/
theorem step_cases (h : Linked d left s f) (hs : s.step setup l' = some s') :
    (∃ l, d.Twins s f l' l) ∨
      (∃ t k answer, l' = .act t (.settle k answer) ∧ k ≤ d.tickets) ∨
      ∃ n, l' = .complete (.controller n) ∧ f.isBusy (.controller n) = false := by
  have ha : s.aborted = false := System.aborted_of_step hs
  cases hw : l'.worker? with
  | some r =>
    obtain ⟨l, hl, hcaller⟩ := h.exists_turn hw (h.runs_le_of_turn hw hs)
    exact .inl ⟨l, hl, fun t ht => by rw [hcaller] at ht; cases ht⟩
  | none =>
    cases l' with
    | act t a =>
      -- a settlement has a twin if its handle is of the new run; every other call has one
      obtain ⟨hmay, -⟩ := System.act_of_step hs
      obtain ⟨u, rfl⟩ := h.exists_thread (.inl hmay)
      have hfree : s.isBusy (d.thread u) = f.isBusy u := by
        have hidle := (System.mayAct_iff.1 hmay).1
        rw [hidle, eq_comm]
        by_contra hbusy
        rw [h.isBusy (by simpa using hbusy)] at hidle
        cases hidle
      have htwins {b : Action} (hb : a = d.action b) :
          d.Twins s f (.act (d.thread u) a) (.act u b) :=
        ⟨by simp [Shift.label, hb], fun t ht => by obtain rfl := Option.some.inj ht; exact hfree⟩
      by_cases hsettle : ∃ k answer, a = .settle k answer
      · obtain ⟨k, answer, rfl⟩ := hsettle
        by_cases hk : k ≤ d.tickets
        · exact .inr (.inl ⟨_, k, answer, rfl, hk⟩)
        · have hj : k = d.tickets + (k - d.tickets) := by
            rw [UInt64.add_comm, UInt64.sub_add_cancel]
          exact .inl ⟨.act u (.settle (k - d.tickets) answer),
            htwins (congrArg (Action.settle · answer) hj)⟩
      · refine .inl ⟨.act u a, htwins ?_⟩
        cases a with
        | settle k answer => exact absurd ⟨k, answer, rfl⟩ hsettle
        | _ => rfl
    | complete t =>
      -- what is in flight belongs to the new run, or is left over from before the start
      rw [System.step_complete ha] at hs
      obtain ⟨p, hp, -⟩ := Option.map_eq_some_iff.1 hs
      have hbusy : s.isBusy t = true :=
        List.any_eq_true.2 ⟨p, List.mem_of_find?_eq_some hp, by simpa using List.find?_some hp⟩
      obtain ⟨u, rfl⟩ := h.exists_thread (.inr hbusy)
      cases hf : f.isBusy u with
      | true =>
        exact .inl ⟨.complete u, by simp [Shift.label], fun t ht => by
          obtain rfl := Option.some.inj ht
          rw [hbusy, hf]⟩
      | false =>
        cases u with
        | controller n => exact .inr (.inr ⟨n, rfl, hf⟩)
        | worker run =>
          rw [h.isBusy_eq, d.isBusy_system (h.clear.apart_worker d run), hf] at hbusy
          cases hbusy
    | wake r =>
      obtain ⟨task, htask, hasleep, -⟩ := System.wake_of_step hs
      have hpoint : s.point? r = some task.point := System.point?_eq_some_iff.2 ⟨task, htask, rfl⟩
      have hle : d.runs ≤ r := h.runs_le hpoint fun hd => by
        rw [hd] at hasleep
        cases hasleep
      obtain ⟨run, rfl⟩ := Nat.exists_eq_add_of_le hle
      exact .inl ⟨.wake run, congrArg Label.wake (Nat.zero_add _), fun t ht => by cases ht⟩
    | _ => cases hw

end Linked

end RunControl
