import RunControl.Proofs.Trail

/-!
# Workers in order

* `System.atWork`, `System.owed`, `System.outstanding`: the runs that are alive in the pool, the
  accepted starts on their way to the pool, and both;
* `Orderly`: as many runs are outstanding as the control state is told are alive, none but the
  latest is alive, and a thread owes at most one second step;
* **`Reachable.orderly`**: this holds of every state in which a supervisor can be;
* **`Trail.starts_eq`**: the accepted starts are the runs handed to the pool and those on their way.
-/

namespace RunControl

variable {κ : Type}

/-- The second step hands a run to the pool. -/
def Pending.isSubmit : Pending → Bool
  | notify => false
  | submit _ => true

namespace System

/-- How many runs have been handed to the pool and are still alive. -/
def atWork (s : System κ) : Nat := s.tasks.countP fun t => !t.point.phase.isOver

/-- How many accepted starts have not been handed to the pool. -/
def owed (s : System κ) : Nat := s.inFlight.countP fun p => p.2.isSubmit

/-- How many runs have been started and are still alive. -/
def outstanding (s : System κ) : Nat := s.atWork + s.owed

end System

/-- **What every step keeps of workers and calls.** A thread owes at most one second step, only the
latest run can be alive, and a worker within a call runs code that does not belong to the
supervisor. -/
structure Orderly (s : System κ) : Prop where
  keys : (s.inFlight.map Prod.fst).Nodup
  outstanding : s.outstanding = if s.control.alive then 1 else 0
  latest : ∀ {run f}, s.phase? run = some f → f.isOver = false → run + 1 = s.tasks.length
  outside : ∀ {run q}, (.worker run, q) ∈ s.inFlight →
    ∃ t, s.tasks[run]? = some t ∧ t.point.isOutside = true

variable {setup : Setup κ} {s s' : System κ} {p : List (Moment κ)} {l : Label κ} {run : RunId}
  {f : Phase κ}

/-! ## Counting -/

theorem countP_filter_fst {α β : Type} [DecidableEq α] {ps : List (α × β)} {a : α} {b : β}
    (g : α × β → Bool) (hk : (ps.map Prod.fst).Nodup) (hb : (a, b) ∈ ps) :
    (ps.filter fun p => p.1 ≠ a).countP g + (if g (a, b) then 1 else 0) = ps.countP g := by
  induction ps with
  | nil => simp at hb
  | cons p ps ih =>
    rw [List.map_cons, List.nodup_cons] at hk
    rcases List.mem_cons.1 hb with rfl | hb
    · have hall : ps.filter (fun p => p.1 ≠ a) = ps := by
        refine List.filter_eq_self.2 fun p hp => ?_
        have hne : p.1 ≠ a := fun he => hk.1 (List.mem_map.2 ⟨p, hp, he⟩)
        simpa using hne
      rw [List.filter_cons_of_neg (by simp), hall, List.countP_cons]
    · have hne : p.1 ≠ a := fun he => hk.1 (List.mem_map.2 ⟨_, hb, he.symm⟩)
      rw [List.filter_cons_of_pos (by simpa using hne), List.countP_cons, List.countP_cons,
        ← ih hk.2 hb]
      omega

namespace System

theorem isBusy_eq_false_iff {t : Thread} : s.isBusy t = false ↔ ∀ q, (t, q) ∉ s.inFlight := by
  simp only [isBusy, List.any_eq_false, decide_eq_true_eq, Prod.forall]
  exact ⟨fun h q hq => h t q hq rfl, fun h u q hq hu => h q (hu ▸ hq)⟩

theorem mayAct_iff {t : Thread} :
    s.mayAct t = true ↔ s.isBusy t = false ∧ ∀ run, t = .worker run →
      ∃ t, s.tasks[run]? = some t ∧ t.point.isOutside = true := by
  unfold mayAct point?
  cases t with
  | controller n => simp
  | worker run => cases h : s.tasks[run]? <;> simp [h]

theorem one_le_atWork (h : s.phase? run = some f) (hf : f.isOver = false) : 1 ≤ s.atWork := by
  obtain ⟨t, ht, rfl⟩ := phase?_eq_some_iff.1 h
  exact List.one_le_countP_iff.2 ⟨t, List.mem_of_getElem? ht, by simp [hf]⟩

theorem atWork_set {t t' : Task κ} (ht : s.tasks[run]? = some t)
    (hs : s'.tasks = s.tasks.set run t') :
    s'.atWork + (if t.point.phase.isOver then 0 else 1) =
      s.atWork + (if t'.point.phase.isOver then 0 else 1) := by
  obtain ⟨hlt, hget⟩ := List.getElem?_eq_some_iff.1 ht
  have hle : t.point.phase.isOver = false → 1 ≤ s.atWork :=
    one_le_atWork (phase?_eq_some_iff.2 ⟨t, ht, rfl⟩)
  have hset := List.countP_set (p := fun t : Task κ => !t.point.phase.isOver) (a := t') hlt
  rw [hget, ← hs] at hset
  change s'.atWork = s.atWork - _ + _ at hset
  cases ho : t.point.phase.isOver <;> cases ho' : t'.point.phase.isOver <;>
    simp [ho, ho'] at hset hle ⊢ <;> omega

end System

/-! ## Every step keeps order -/

section Step

variable {c c' : Control} {hs hs' : List UInt64} {q q' : Point κ} {a : Action}
  {owed : Option Pending}

theorem Acted.alive_cases (h : Acted c hs a c' hs' owed) :
    (c.alive = false ∧ c'.alive = true ∧ ∃ args, owed = some (.submit args)) ∨
      (c'.alive = c.alive ∧ (owed = none ∨ owed = some .notify)) := by
  cases h with
  | start hc =>
    obtain ⟨ha, rfl⟩ := Control.start_eq_some_iff.1 hc
    exact .inl ⟨ha, rfl, _, rfl⟩
  | resume hc => exact .inr ⟨by rw [(Control.resume_eq_some_iff.1 hc).2], .inr rfl⟩
  | interrupt hc => exact .inr ⟨by rw [(Control.interrupt_eq_some_iff.1 hc).2], .inr rfl⟩
  | settle _ hc => exact .inr ⟨by rw [(Control.settle_eq_some_iff.1 hc).2], .inr rfl⟩
  | late | activate | other => exact .inr ⟨rfl, .inl rfl⟩

theorem Turn.alive_cases (h : Turn run l c hs q c' hs' q') :
    (q.phase.isOver = false ∧ q'.phase.isOver = true ∧ c'.alive = false) ∨
      (q'.phase.isOver = q.phase.isOver ∧ c'.alive = c.alive) := by
  cases h with
  | pass hp => exact .inr ⟨hp.moves.isOver, rfl⟩
  | openRead ho => exact .inr ⟨rfl, by rw [(Control.openRead_eq_some_iff.1 ho).2]⟩
  | park => exact .inr ⟨by rw [Point.phase_sleep], rfl⟩
  | take hp => exact .inr ⟨by rcases hp with rfl | rfl <;> rfl, Control.alive_takeAnswer _⟩
  | unwind hp => exact .inr ⟨by rw [hp]; rfl, rfl⟩
  | @close _ _ exit => exact .inr ⟨by cases exit <;> rfl, rfl⟩
  | finish => exact .inl ⟨rfl, rfl, rfl⟩
  | _ => exact .inr ⟨rfl, rfl⟩

/-- The worker of a run that is over touches neither the control state nor the handles. -/
theorem Turn.of_isOver (h : Turn run l c hs q c' hs' q') (hq : q.phase.isOver = true) :
    c' = c ∧ hs' = hs := by
  cases h with
  | take hp => rcases hp with rfl | rfl <;> cases hq
  | pass | park | release | unwind => exact ⟨rfl, rfl⟩
  | _ => cases hq

end Step

namespace Orderly

theorem initial (directory : String) : Orderly (System.initial setup directory) where
  keys := List.nodup_nil
  outstanding := rfl
  latest h := by simp [System.phase?, System.point?, System.initial] at h
  outside h := by simp [System.initial] at h

theorem owed_eq_zero (hs : Orderly s) (h : s.phase? run = some f) (hf : f.isOver = false) :
    s.owed = 0 := by
  have h1 := System.one_le_atWork h hf
  have h2 := hs.outstanding
  unfold System.outstanding at h2
  split_ifs at h2 <;> omega

theorem alive_of_phase (hs : Orderly s) (h : s.phase? run = some f) (hf : f.isOver = false) :
    s.control.alive = true := by
  have h1 := System.one_le_atWork h hf
  have h2 := hs.outstanding
  unfold System.outstanding at h2
  by_contra ha
  rw [if_neg ha] at h2
  omega

theorem not_busy (hs : Orderly s) {q : Point κ} (h : s.point? run = some q)
    (hq : q.isOutside = false) : s.isBusy (.worker run) = false := by
  refine System.isBusy_eq_false_iff.2 fun owed howed => ?_
  obtain ⟨t, ht, hout⟩ := hs.outside howed
  obtain ⟨t', ht', rfl⟩ := System.point?_eq_some_iff.1 h
  obtain rfl := Option.some.inj (ht.symm.trans ht')
  rw [hq] at hout
  cases hout

theorem step_advance (hs : Orderly s) {q : Point κ} (h : s.point? run = some q)
    (hq : q.isOutside = false) (ha : s.aborted = false) (elapsed : Nat) :
    ∃ args, s.step setup (.advance run elapsed) = s.advance setup run args elapsed q := by
  obtain ⟨t, ht, rfl⟩ := System.point?_eq_some_iff.1 h
  have htask : s.freeTask? run = some t := System.freeTask?_eq_some_iff.2 ⟨hs.not_busy h hq, ht⟩
  exact ⟨t.args, by simp [System.step, ha, htask]⟩

/-- **Two runs that are alive are one.** -/
theorem eq_of_phase {r : RunId} {g : Phase κ} (hs : Orderly s) (h : s.phase? run = some f)
    (hf : f.isOver = false) (hr : s.phase? r = some g) (hg : g.isOver = false) : run = r :=
  Nat.succ.inj ((hs.latest h hf).trans (hs.latest hr hg).symm)

theorem keys_step (hs : Orderly s) (h : System.Stepped s s' l) :
    (s'.inFlight.map Prod.fst).Nodup := by
  cases h with
  | @act t a owed hmay _ _ hi =>
    rw [hi, List.map_append]
    cases owed with
    | none => simpa using hs.keys
    | some q =>
      refine List.nodup_append.2 ⟨hs.keys, by simp, ?_⟩
      rintro u hu v hv rfl
      obtain ⟨⟨_, q'⟩, hmem, rfl⟩ := List.mem_map.1 hu
      obtain rfl : _ = t := by simpa using hv
      exact System.isBusy_eq_false_iff.1 (System.mayAct_iff.1 hmay).1 q' hmem
  | notify _ _ _ _ hi | submit _ _ _ _ hi =>
    rw [hi]
    exact hs.keys.sublist (List.filter_sublist.map _)
  | wake _ _ _ _ _ hi => rw [hi]; exact hs.keys
  | turn _ ht => rw [ht.inFlight]; exact hs.keys

theorem owed_complete (hs : Orderly s) {t : Thread} {q : Pending} (hq : (t, q) ∈ s.inFlight)
    (hi : s'.inFlight = s.inFlight.filter fun p => p.1 ≠ t) :
    s'.owed + (if q.isSubmit then 1 else 0) = s.owed := by
  unfold System.owed
  rw [hi]
  exact countP_filter_fst (fun p => p.2.isSubmit) hs.keys hq

theorem outstanding_step (hs : Orderly s) (h : System.Stepped s s' l) :
    s'.outstanding = if s'.control.alive then 1 else 0 := by
  have ho := hs.outstanding
  unfold System.outstanding at ho ⊢
  -- the balance of every step: what is submitted is no longer owed, and only the turn that clears
  -- the flag takes a worker away
  cases h with
  | @act t a owed _ ha ht hi =>
    have hw : s'.atWork = s.atWork := by rw [System.atWork, ht, System.atWork]
    have hd : s'.owed = s.owed + (owed.map (t, ·)).toList.countP fun p => p.2.isSubmit := by
      rw [System.owed, hi, List.countP_append, System.owed]
    obtain ⟨h0, h1, args, rfl⟩ | ⟨he, rfl | rfl⟩ := ha.alive_cases
    · have h2 : s'.owed = s.owed + 1 := hd
      rw [h0, if_neg (by simp)] at ho
      rw [h1, if_pos rfl]
      omega
    · rw [he, hw, hd]
      exact ho
    · rw [he, hw, hd]
      exact ho
  | notify hmem hc _ ht hi =>
    have hw : s'.atWork = s.atWork := by
      rw [System.atWork, ht, List.countP_map]
      simp [Function.comp_def, System.atWork]
    have hd : s'.owed = s.owed := hs.owed_complete hmem hi
    rw [hc, hw, hd]
    exact ho
  | submit hmem hc _ ht hi =>
    have hw : s'.atWork = s.atWork + 1 := by
      rw [System.atWork, ht, List.countP_append]
      rfl
    have hd : s'.owed + 1 = s.owed := hs.owed_complete hmem hi
    rw [hc, ← ho]
    omega
  | @wake r t w htask hp hc _ ht hi =>
    have hw := System.atWork_set htask ht
    rw [hp, Point.phase_sleep] at hw
    have hd : s'.owed = s.owed := by rw [System.owed, hi, System.owed]
    rw [hc, Nat.add_right_cancel hw, hd]
    exact ho
  | turn hl ht =>
    have hw := System.atWork_set ht.task ht.tasks
    have hd : s'.owed = s.owed := by rw [System.owed, ht.inFlight, System.owed]
    obtain ⟨h0, h1, h2⟩ | ⟨h0, h1⟩ := ht.turn.alive_cases
    · have h3 : s'.atWork + 1 = s.atWork := by
        rw [h0, h1] at hw
        exact hw
      rw [h2, if_neg (by simp)]
      split_ifs at ho <;> omega
    · have h3 : s'.atWork = s.atWork := by
        rw [h0] at hw
        exact Nat.add_right_cancel hw
      rw [h1, h3, hd]
      exact ho

theorem length_tasks (h : System.Stepped s s' l) :
    s'.tasks.length = s.tasks.length ∨ s'.tasks.length = s.tasks.length + 1 ∧ 0 < s.owed := by
  cases h with
  | act _ _ ht _ => exact .inl (by rw [ht])
  | notify _ _ _ ht _ => exact .inl (by rw [ht, List.length_map])
  | submit hmem _ _ ht _ =>
    refine .inr ⟨by rw [ht, List.length_append, List.length_singleton], ?_⟩
    exact List.countP_pos_iff.2 ⟨_, hmem, rfl⟩
  | wake _ _ _ _ ht _ => exact .inl (by rw [ht, List.length_set])
  | turn _ ht => exact .inl (by rw [ht.tasks, List.length_set])

theorem latest_step (hs : Orderly s) (h : System.Stepped s s' l) (hp : s'.phase? run = some f)
    (hf : f.isOver = false) : run + 1 = s'.tasks.length := by
  -- a run that was alive before the step is the latest, and none joins it
  have hkeep : ∀ {g}, s.phase? run = some g → g.isOver = false → run + 1 = s'.tasks.length := by
    intro g hg ho
    have hlast := hs.latest hg ho
    obtain hlen | ⟨-, howed⟩ := length_tasks h
    · rw [hlen, hlast]
    · rw [hs.owed_eq_zero hg ho] at howed
      cases howed
  by_cases hl : l.worker? = some run
  · cases h with
    | @turn r _ t p hr ht =>
      obtain rfl : r = run := Option.some.inj (hr.symm.trans hl)
      obtain ⟨h1, h2⟩ := ht.phase?
      obtain rfl : p.phase = f := Option.some.inj (h2.symm.trans hp)
      obtain ⟨-, h3, -⟩ | ⟨h3, -⟩ := ht.turn.alive_cases
      · rw [h3] at hf
        cases hf
      · exact hkeep h1 (h3 ▸ hf)
    | _ => simp [Label.worker?] at hl
  · obtain he | ⟨hlen, hnone, -⟩ := h.phase?_eq hl
    · exact hkeep (he ▸ hp) hf
    · obtain ⟨t, ht, -⟩ := System.phase?_eq_some_iff.1 hp
      have hlt := (List.getElem?_eq_some_iff.1 ht).1
      obtain h1 | ⟨h1, -⟩ := length_tasks h
      · rw [h1, hlen] at hlt
        exact absurd hlt (Nat.lt_irrefl _)
      · rw [h1, hlen]

theorem outside_step (hs : Orderly s) (h : System.Stepped s s' l) {q : Pending}
    (hq : (.worker run, q) ∈ s'.inFlight) :
    ∃ t, s'.tasks[run]? = some t ∧ t.point.isOutside = true := by
  cases h with
  | @act t a owed hmay _ htasks hi =>
    rw [htasks]
    rw [hi] at hq
    obtain hq | hq := List.mem_append.1 hq
    · exact hs.outside hq
    · cases owed with
      | none => simp at hq
      | some q' =>
        obtain ⟨rfl, rfl⟩ : Thread.worker run = t ∧ q = q' := by simpa using hq
        exact (System.mayAct_iff.1 hmay).2 run rfl
  | notify _ _ _ htasks hi =>
    rw [hi] at hq
    obtain ⟨t, ht, ho⟩ := hs.outside (List.mem_filter.1 hq).1
    refine ⟨t, ?_, ho⟩
    rw [htasks, List.getElem?_map, ht, Option.map_some, Point.wake_of_isOutside ho]
  | submit _ _ _ htasks hi =>
    rw [hi] at hq
    obtain ⟨t, ht, ho⟩ := hs.outside (List.mem_filter.1 hq).1
    refine ⟨t, ?_, ho⟩
    rw [htasks, List.getElem?_append_left (List.getElem?_eq_some_iff.1 ht).1, ht]
  | @wake r t₀ w htask hp _ _ htasks hi =>
    rw [hi] at hq
    obtain ⟨t, ht, ho⟩ := hs.outside hq
    have hr : r ≠ run := by
      rintro rfl
      obtain rfl : t₀ = t := Option.some.inj (htask.symm.trans ht)
      rw [hp] at ho
      cases w <;> simp [Wait.sleep, Point.isOutside] at ho
    exact ⟨t, by rw [htasks, List.getElem?_set_ne hr, ht], ho⟩
  | @turn r _ t₀ p _ hturn =>
    rw [hturn.inFlight] at hq
    obtain ⟨t, ht, ho⟩ := hs.outside hq
    have hr : run ≠ r := by
      rintro rfl
      exact System.isBusy_eq_false_iff.1 hturn.free q hq
    exact ⟨t, by rw [hturn.getElem?, if_neg hr, ht], ho⟩

theorem step (hs : Orderly s) (h : s.step setup l = some s') : Orderly s' :=
  have hst := System.stepped_of_step h
  ⟨hs.keys_step hst, hs.outstanding_step hst, hs.latest_step hst, hs.outside_step hst⟩

end Orderly

/-- **Workers and calls are in order in every state in which a supervisor can be.** -/
theorem Reachable.orderly (hr : Reachable setup s) : Orderly s :=
  hr.invariant Orderly.initial Orderly.step

/-- While a run is alive, only calls and its own worker touch the control state and the handles. -/
theorem System.Stepped.kept (h : System.Stepped s s' l) (ho : Orderly s)
    (hf : s.phase? run = some f) (halive : f.isOver = false) (hl : l.worker? ≠ some run)
    (hact : ∀ t a, l ≠ .act t a) : s'.control = s.control ∧ s'.handles = s.handles := by
  cases h with
  | act => exact absurd rfl (hact _ _)
  | notify _ hc hh | submit _ hc hh | wake _ _ hc hh => exact ⟨hc, hh⟩
  | @turn r _ t q hr ht =>
    refine ht.turn.of_isOver ?_
    by_contra hn
    have he := ho.eq_of_phase ht.phase?.1 (by simpa using hn) hf halive
    exact hl (he ▸ hr)

/-! ## Starts and runs -/

theorem Acted.isSubmit {t : Thread} {a : Action} {c' : Control} {hs' : List UInt64}
    {owed : Option Pending} (h : Acted s.control s.handles a c' hs' owed) :
    owed.any Pending.isSubmit = (Moment.mk s (.act t a)).starts := by
  cases h with
  | start hc => exact (Option.isSome_of_eq_some hc).symm
  | resume | interrupt | settle | late | activate => rfl
  | other hst =>
    cases a with
    | start args mode => simp [Moment.starts, hst args mode rfl]
    | _ => rfl

theorem starts_of_step (ho : Orderly s) (h : s.step setup l = some s') :
    s'.tasks.length + s'.owed =
      s.tasks.length + s.owed + if (Moment.mk s l).starts then 1 else 0 := by
  cases System.stepped_of_step h with
  | @act t a owed _ ha ht hi =>
    have hd : s'.owed = s.owed + (owed.map (t, ·)).toList.countP fun p => p.2.isSubmit := by
      rw [System.owed, hi, List.countP_append, System.owed]
    have hn : ((owed.map (t, ·)).toList.countP fun p => p.2.isSubmit) =
        if (Moment.mk s (.act t a)).starts then 1 else 0 := by
      rw [← ha.isSubmit]
      cases owed <;> simp [List.countP_cons]
    rw [ht, hd, hn, Nat.add_assoc]
  | notify hmem _ _ ht hi =>
    have hd := ho.owed_complete hmem hi
    rw [ht, List.length_map]
    exact congrArg (s.tasks.length + ·) hd
  | @submit t args hmem _ _ ht hi =>
    have hd : s'.owed + 1 = s.owed := ho.owed_complete hmem hi
    rw [ht, List.length_append, List.length_singleton, ← hd]
    simp only [Moment.starts, Bool.false_eq_true, if_false]
    omega
  | wake _ _ _ _ ht hi =>
    rw [ht, List.length_set, System.owed, hi]
    rfl
  | turn hl ht =>
    rw [ht.tasks, List.length_set, System.owed, ht.inFlight,
      (Moment.not_of_not_act (Label.not_act_of_worker hl)).1]
    rfl

/-- **The accepted starts are the runs handed to the pool and those on their way.** -/
theorem Trail.starts_eq {directory : String}
    (hp : Trail setup (System.initial setup directory) p s) :
    p.countP Moment.starts = s.tasks.length + s.owed := by
  induction hp with
  | nil => rfl
  | cons hp hs ih => rw [List.countP_cons, ih, starts_of_step hp.reachable.orderly hs]

theorem Trail.starts_of_phase {directory : String}
    (hp : Trail setup (System.initial setup directory) p s) (h : s.phase? run = some f)
    (hf : f.isOver = false) : p.countP Moment.starts = run + 1 := by
  have ho := hp.reachable.orderly
  rw [hp.starts_eq, ho.owed_eq_zero h hf, ho.latest h hf, Nat.add_zero]

/-! ## The arguments of a run -/

/-- The run gets these arguments: the one start on its way to the pool has them, and so has the run
once it is there. -/
structure Handed (run : RunId) (args : List String) (s : System κ) : Prop where
  submitted : ∀ {t a}, (t, .submit a) ∈ s.inFlight → a = args
  args : ∀ task, s.tasks[run]? = some task → task.args = args

namespace Handed

variable {args : List String}

theorem submitted_step (h : Handed run args s) (hstarts : (Moment.mk s l).starts = false)
    (hs : s.step setup l = some s') {t : Thread} {a : List String}
    (ht : (t, .submit a) ∈ s'.inFlight) : a = args := by
  cases System.stepped_of_step hs with
  | @act u b owed _ hacted _ hi =>
    rw [hi, List.mem_append] at ht
    obtain ht | ht := ht
    · exact h.submitted ht
    · rw [← hacted.isSubmit] at hstarts
      cases owed with
      | none => cases ht
      | some q =>
        simp only [Option.map_some, Option.toList_some, List.mem_singleton, Prod.mk.injEq] at ht
        obtain ⟨-, rfl⟩ := ht
        cases hstarts
  | notify _ _ _ _ hi | submit _ _ _ _ hi => exact h.submitted (List.mem_filter.1 (hi ▸ ht)).1
  | wake _ _ _ _ _ hi => exact h.submitted (hi ▸ ht)
  | turn _ hturn => exact h.submitted (hturn.inFlight ▸ ht)

theorem args_step (h : Handed run args s) (hs : s.step setup l = some s') {task : Task κ}
    (ht : s'.tasks[run]? = some task) : task.args = args := by
  have hset {r : RunId} {t : Task κ} {q : Point κ} (hr : s.tasks[r]? = some t)
      (ht : (s.tasks.set r { t with point := q })[run]? = some task) : task.args = args := by
    by_cases he : r = run
    · subst he
      rw [List.getElem?_set_self (List.getElem?_eq_some_iff.1 hr).1] at ht
      obtain rfl := Option.some.inj ht
      exact h.args t hr
    · rw [List.getElem?_set_ne he] at ht
      exact h.args _ ht
  cases System.stepped_of_step hs with
  | act _ _ htasks _ => exact h.args _ (htasks ▸ ht)
  | notify _ _ _ htasks _ =>
    rw [htasks, List.getElem?_map] at ht
    obtain ⟨t, htask, rfl⟩ := Option.map_eq_some_iff.1 ht
    exact h.args t htask
  | submit hmem _ _ htasks _ =>
    rw [htasks, List.getElem?_append] at ht
    split at ht
    · exact h.args _ ht
    · obtain ⟨hlt, rfl⟩ := List.getElem?_eq_some_iff.1 ht
      simp only [List.getElem_singleton]
      exact h.submitted hmem
  | wake hr _ _ _ htasks _ => exact hset hr (htasks ▸ ht)
  | turn _ hturn => exact hset hturn.task (hturn.tasks ▸ ht)

theorem step (h : Handed run args s) (hstarts : (Moment.mk s l).starts = false)
    (hs : s.step setup l = some s') : Handed run args s' :=
  ⟨h.submitted_step hstarts hs, fun _ => h.args_step hs⟩

theorem start {c : Control} {mode : DebugMode} {t : Thread} (ho : Orderly s)
    (hc : s.control.start mode = some c) :
    Handed s.tasks.length args (({ s with control := c } : System κ).promise t (.submit args)) := by
  obtain ⟨halive, -⟩ := Control.start_eq_some_iff.1 hc
  have howed : s.owed = 0 := by
    have hzero := ho.outstanding
    rw [halive] at hzero
    exact (Nat.add_eq_zero_iff.1 hzero).2
  have hnone : s.tasks[s.tasks.length]? = none := List.getElem?_eq_none (Nat.le_refl _)
  refine ⟨fun {u a} hu => ?_, fun task ht => ?_⟩
  · obtain hu | hu := List.mem_append.1 hu
    · have hpos : 0 < s.owed := List.countP_pos_iff.2 ⟨_, hu, rfl⟩
      omega
    · obtain ⟨-, ⟨⟩⟩ := Prod.mk.inj (List.mem_singleton.1 hu)
      rfl
  · cases hnone.symm.trans ht

end Handed

end RunControl
