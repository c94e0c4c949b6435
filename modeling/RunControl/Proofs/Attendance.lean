import RunControl.Proofs.Position
import RunControl.Proofs.Progress

/-!
# Who hears what

A notification takes the list of observers and calls them one by one. An observer who is registered
when a run starts, and whom nobody removes before its end, is on every list that the run takes.

* `announced`, `heard`: the notices of a run whose telling has begun, and those that an observer
  has been told;
* `System.Registers`, **`System.registers_of_step`**: what a step does to the roster;
* `attends`, **`Trail.registered`**: an observer who attends a run stays on the roster until the run
  takes everybody off it;
* **`Trail.heard_eq`**: such an observer hears every notice of the run, once and in order.
-/

namespace RunControl

variable {κ : Type}

/-! ## Notices of a run -/

namespace Point

/-- The notice for which the worker is about to take the list of observers. -/
def announces? : Point κ → Option Notice
  | announcing notice _ => some notice
  | draining result => some (.ended result)
  | _ => none

/-- The notice that the observer is being told. -/
def tells? (o : ObserverId) : Point κ → Option Notice
  | telling notice (first :: _) _ => if first = o then some notice else none
  | ending result (first :: _) => if first = o then some (.ended result) else none
  | _ => none

/-- The observers on the list that was taken who have not been told. -/
def queue : Point κ → List ObserverId
  | telling _ queue _ | ending _ queue => queue
  | finishing _ watchers => watchers
  | _ => []

/-- The notice on its way to the observer. -/
def untold (o : ObserverId) : Point κ → List Notice
  | telling notice queue _ => if o ∈ queue then [notice] else []
  | finishing result queue | ending result queue => if o ∈ queue then [.ended result] else []
  | _ => []

/-- The run has taken everybody off the roster. -/
def isDrained : Point κ → Bool
  | finishing _ _ | ending _ _ | done => true
  | _ => false

@[simp] theorem untold_wake (o : ObserverId) (q : Point κ) : q.wake.untold o = q.untold o := by
  cases q <;> rfl

@[simp] theorem queue_wake (q : Point κ) : q.wake.queue = q.queue := by cases q <;> rfl

@[simp] theorem isDrained_wake (q : Point κ) : q.wake.isDrained = q.isDrained := by
  cases q <;> rfl

theorem isOver_eq_false_of_isDrained {q : Point κ} (h : q.isDrained = false) :
    q.phase.isOver = false := by
  cases q with
  | announcing notice after | telling notice queue after =>
    cases after with
    | leaveRead exit => cases exit <;> rfl
    | _ => rfl
  | finishing | ending | done => cases h
  | _ => rfl

end Point

namespace Moment

/-- What the worker of a run does at its place in the step. -/
def at? {α : Type} (run : RunId) (f : Point κ → Option α) (x : Moment κ) : Option α :=
  if x.label.worker? = some run then (x.state.point? run).bind f else none

/-- The code that runs on the worker of the run panics in a notification. -/
def tearsNotice (run : RunId) (x : Moment κ) : Bool :=
  match x.label, x.state.point? run with
  | .panicked r _, some (.telling _ _ _) => r = run
  | _, _ => false

/-- The observer is removed. -/
def removes (o : ObserverId) (x : Moment κ) : Bool :=
  match x.label with
  | .act _ (.removeObserver removed) => removed = o
  | _ => false

end Moment

/-- The notices of a run for which the list of observers has been taken, in order. -/
def announced (run : RunId) (p : List (Moment κ)) : List Notice :=
  (p.filterMap (Moment.at? run Point.announces?)).reverse

/-- The notices of a run that an observer has been told, in order. -/
def heard (run : RunId) (o : ObserverId) (p : List (Moment κ)) : List Notice :=
  (p.filterMap (Moment.at? run (Point.tells? o))).reverse

/-- The observer is registered when the start of the run is accepted, and nobody removes it while
the run is alive. -/
def attends (run : RunId) (o : ObserverId) : List (Moment κ) → Bool
  | [] => false
  | x :: p =>
    if x.starts && p.countP Moment.starts == run then decide (o ∈ x.state.roster.members)
    else attends run o p && (!x.removes o || (x.state.phase? run).any Phase.isOver)

variable {setup : Setup κ} {s s' s₁ : System κ} {p : List (Moment κ)} {l : Label κ} {run : RunId}
  {args : List String} {q q' : Point κ} {o : ObserverId} {x : Moment κ}

theorem reverse_filterMap_cons {α β : Type} (f : α → Option β) (a : α) (as : List α) :
    ((a :: as).filterMap f).reverse = (as.filterMap f).reverse ++ (f a).toList := by
  cases h : f a with
  | none => rw [List.filterMap_cons_none h, Option.toList_none, List.append_nil]
  | some b => rw [List.filterMap_cons_some h, List.reverse_cons, Option.toList_some]

theorem announced_cons :
    announced run (x :: p) = announced run p ++ (x.at? run Point.announces?).toList :=
  reverse_filterMap_cons _ x p

theorem heard_cons :
    heard run o (x :: p) = heard run o p ++ (x.at? run (Point.tells? o)).toList :=
  reverse_filterMap_cons _ x p

theorem Moment.at?_of_worker {α : Type} {f : Point κ → Option α} (hl : l.worker? = some run)
    (hq : s.point? run = some q) : (Moment.mk s l).at? run f = f q := by
  rw [at?, if_pos hl, hq, Option.bind_some]

theorem Moment.at?_of_other {α : Type} {f : Point κ → Option α} (hl : l.worker? ≠ some run) :
    (Moment.mk s l).at? run f = none := if_neg hl

theorem Trail.worker?_of_unseen {directory : String}
    (hp : Trail setup (System.initial setup directory) p s) (h : s.point? run = none) :
    ∀ x ∈ p, x.label.worker? ≠ some run := by
  induction hp with
  | nil => intro x hx; cases hx
  | @cons p s s' l hp hs ih =>
    have hl : l.worker? ≠ some run := fun hl => by
      obtain ⟨t, q, ht⟩ := System.turned_of_step hl hs
      cases h.symm.trans ht.point?.2
    have hbefore : s.point? run = none := by
      obtain he | ⟨-, hnone, -⟩ | ⟨he, -⟩ := (System.stepped_of_step hs).point?_cases hl
      · exact he.symm.trans h
      · exact hnone
      · exact Option.map_eq_none_iff.1 (he.symm.trans h)
    intro x hx
    rcases List.mem_cons.1 hx with rfl | hx
    · exact hl
    · exact ih hbefore x hx

theorem filterMap_at?_of_unseen {α : Type} {f : Point κ → Option α}
    (h : ∀ x ∈ p, x.label.worker? ≠ some run) : p.filterMap (Moment.at? run f) = [] :=
  List.filterMap_eq_nil_iff.2 fun x hx => Moment.at?_of_other (h x hx)

/-! ## The roster -/

/-- What a step does to the roster. -/
inductive System.Registers (s : System κ) : Label κ → Roster ObserverId → Prop
  | keep {l : Label κ} : Registers s l s.roster
  | add {t : Thread} {o : ObserverId} : Registers s (.act t (.addObserver o)) (s.roster.add o)
  | remove {t : Thread} {o : ObserverId} :
    Registers s (.act t (.removeObserver o)) (s.roster.remove o)
  | drain {r : RunId} {elapsed : ℕ} {result : RunResult} :
    s.point? r = some (.draining result) → Registers s (.advance r elapsed) .empty

namespace System

theorem Acts.registers {t : Thread} {a : Action} (h : s.Acts t a s') :
    s.Registers (.act t a) s'.roster := by
  cases h with
  | addObserver => exact .add
  | removeObserver => exact .remove
  | _ => exact .keep

theorem Called.roster {c : Call κ} (h : s.Called setup c s₁ q) : s₁.roster = s.roster := by
  cases h <;> rfl

/-- Of the turns of a worker, only the one that takes everybody off the roster touches it. -/
theorem Takes.registers (h : s.Takes setup run args l q s₁ q') (hq : s.point? run = some q) :
    s.Registers l s₁.roster := by
  cases h with
  | drained => exact .drain hq
  | called hcalled => exact hcalled.roster ▸ .keep
  | _ => exact .keep

/-- **A step registers or removes an observer, takes all observers off the roster at the end of a
run, or leaves the roster alone.** -/
theorem registers_of_step (h : s.step setup l = some s') : s.Registers l s'.roster := by
  cases does_of_step h with
  | act _ hacts => exact hacts.registers
  | @complete _ owed => cases owed <;> exact .keep
  | wake => exact .keep
  | turn _ hfree htakes =>
    exact htakes.registers (point?_eq_some_iff.2 ⟨_, (freeTask?_eq_some_iff.1 hfree).2, rfl⟩)

end System

theorem System.Registers.nodup {r : Roster ObserverId} (h : s.Registers l r)
    (hs : s.roster.members.Nodup) : r.members.Nodup := by
  cases h with
  | keep => exact hs
  | add =>
    unfold Roster.add
    split_ifs with hmem
    · exact hs
    · refine List.nodup_append.2 ⟨hs, by simp, ?_⟩
      rintro a ha b hb rfl
      exact hmem (List.mem_singleton.1 hb ▸ ha)
  | remove => exact hs.filter _
  | drain => exact List.nodup_nil

theorem Reachable.nodup_roster (hr : Reachable setup s) : s.roster.members.Nodup :=
  hr.invariant (I := fun s => s.roster.members.Nodup) (fun _ => List.nodup_nil)
    fun hs h => (System.registers_of_step h).nodup hs

/-! ## Who is on the list -/

theorem System.announce_of_step {notice : Notice} (hl : l.worker? = some run)
    (hq : s.point? run = some q) (ha : q.announces? = some notice)
    (h : s.step setup l = some s') : ∃ q', s'.point? run = some q' ∧
      q'.queue = s.roster.members ∧
        ∀ o, q'.untold o = if o ∈ s.roster.members then [notice] else [] := by
  obtain ⟨args, s₁, q', -, hq', htakes⟩ := takes_of_point hl hq h
  refine ⟨q', hq', ?_⟩
  cases htakes with
  | tell | drained =>
    obtain rfl := Option.some.inj ha
    exact ⟨rfl, fun _ => rfl⟩
  | @park _ w => cases w <;> cases ha
  | take hasks => obtain rfl | rfl := hasks <;> cases ha
  | returned hskips => cases hskips <;> cases ha
  | collided hat =>
    subst hat
    cases ha
  | _ => cases ha

theorem Point.Next.queue (h : Next setup run l q q') (ha : q.announces? = none) :
    q'.queue.Sublist q.queue := by
  cases h with
  | skip hskips =>
    cases hskips with
    | telling | ending => exact List.sublist_cons_self _ _
    | initializing | finalizing => exact List.Sublist.refl _
  | tell | drained => cases ha
  | @told _ _ after =>
    cases after with
    | leaveRead exit => cases exit <;> exact List.nil_sublist _
    | _ => exact List.nil_sublist _
  | @sleep _ w => cases w <;> exact List.nil_sublist _
  | finished => exact List.Sublist.refl _
  | @tornNotice _ _ _ after _ htorn =>
    cases after with
    | leaveRead exit =>
      cases exit with
      | answer state => cases htorn; exact List.nil_sublist _
      | unwind message => cases htorn
    | _ => cases htorn; exact List.nil_sublist _
  | _ => exact List.nil_sublist _

/-- A turn without a panic in a notification tells the first observer on the list, or nobody. -/
theorem Point.Next.untold (h : Next setup run l q q') (ha : q.announces? = none)
    (hnodup : q.queue.Nodup)
    (hcalm : ∀ payload notice queue after, l = .panicked run payload →
      q ≠ .telling notice queue after) (o : ObserverId) :
    q.untold o = (q.tells? o).toList ++ q'.untold o := by
  have hhead {first : ObserverId} {queue : List ObserverId} (hn : (first :: queue).Nodup)
      (notice : Notice) : (if o ∈ first :: queue then [notice] else []) =
        (if first = o then some notice else none).toList ++ if o ∈ queue then [notice] else [] := by
    by_cases he : first = o
    · subst he
      simp [(List.nodup_cons.1 hn).1]
    · simp [he, Ne.symm he]
  cases h with
  | skip hskips =>
    cases hskips with
    | telling | ending => exact hhead hnodup _
    | initializing | finalizing => rfl
  | tell | drained => cases ha
  | @told _ _ after =>
    cases after with
    | leaveRead exit => cases exit <;> rfl
    | _ => rfl
  | @sleep _ w => cases w <;> rfl
  | tornNotice => exact absurd rfl (hcalm _ _ _ _ rfl)
  | retired => rfl
  | finished => rfl
  | _ => rfl

theorem System.quiet_of_call {c : Call κ} {state : κ} (hq : s.point? run = some (.body state)) :
    ∃ q', (s.call setup run c).point? run = some q' ∧ q'.queue = [] ∧ (∀ o, q'.untold o = []) ∧
      q'.isDrained = false := by
  obtain ⟨s₁, q', hq', -, hcalled⟩ := point?_call setup hq c
  exact ⟨q', hq', by cases hcalled <;> exact ⟨rfl, fun _ => rfl, rfl⟩⟩

theorem Point.Next.isDrained (h : Next setup run l q q') (hd : q'.isDrained = false) :
    q.isDrained = false := by
  cases h with
  | skip hskips => cases hskips <;> first | rfl | cases hd
  | finished | retired => cases hd
  | @sleep _ w => cases w <;> rfl
  | _ => rfl

/-- A list is all of the roster when it is taken, and is only worked off afterwards. -/
theorem System.queue_of_step (h : s.step setup l = some s') (hq' : s'.point? run = some q') :
    q'.queue = s.roster.members ∨ q'.queue = [] ∨
      ∃ q, s.point? run = some q ∧ q'.queue.Sublist q.queue := by
  cases comes_of_step h hq' with
  | stays _ hq => exact .inr (.inr ⟨q', hq, List.Sublist.refl _⟩)
  | @wakes q _ hq => exact .inr (.inr ⟨q, hq, Point.queue_wake q ▸ List.Sublist.refl _⟩)
  | joins => exact .inr (.inl rfl)
  | calls _ hbody hcall =>
    obtain ⟨q₁, hq₁, hqueue, -⟩ := quiet_of_call hbody
    obtain rfl := Option.some.inj (hq₁.symm.trans hcall)
    exact .inr (.inl hqueue)
  | @turns q _ hl _ hq _ hnext =>
    cases ha : q.announces? with
    | some notice =>
      obtain ⟨q₁, hq₁, hqueue, -⟩ := announce_of_step hl hq ha h
      obtain rfl := Option.some.inj (hq₁.symm.trans hq')
      exact .inl hqueue
    | none => exact .inr (.inr ⟨q, hq, hnext.queue ha⟩)

theorem Reachable.nodup_queue (hr : Reachable setup s) :
    ∀ run q, s.point? run = some q → q.queue.Nodup := by
  obtain ⟨directory, m, hm⟩ := hr
  induction hm with
  | nil =>
    intro run q hq
    simp [System.point?, System.initial] at hq
  | @cons m s s' l hm hs ih =>
    intro run q' hq'
    obtain hqueue | hqueue | ⟨q, hq, hsublist⟩ := System.queue_of_step hs hq'
    · rw [hqueue]
      exact hm.reachable.nodup_roster
    · rw [hqueue]
      exact List.nodup_nil
    · exact (ih run q hq).sublist hsublist

/-- A turn that is no call leads from place to place, if nobody panics in a notification. -/
theorem System.next_of_calm (hl : l.worker? = some run) (hc : ∀ c, l ≠ .call run c)
    (hcalm : (Moment.mk s l).tearsNotice run = false) (h : s.step setup l = some s') :
    ∃ q q', s.point? run = some q ∧ s'.point? run = some q' ∧ q.Next setup run l q' ∧
      ∀ payload notice queue after, l = .panicked run payload →
        q ≠ .telling notice queue after := by
  obtain ⟨q, hq, hgoes⟩ := next_of_step hl hc h
  have htelling (payload : Payload) (notice : Notice) (queue : List ObserverId)
      (after : AfterNotice κ) (he : l = .panicked run payload) :
      q ≠ .telling notice queue after := by
    rintro rfl
    simp [Moment.tearsNotice, he, hq] at hcalm
  obtain ⟨q', hq', -, hnext⟩ | ⟨hcollides, -⟩ := hgoes
  · exact ⟨q, q', hq, hq', hnext, htelling⟩
  · -- two panics would meet in a notification
    unfold Moment.collides at hcollides
    split at hcollides
    · rename_i r payload notice o queue message hlabel hpoint
      obtain rfl : r = run := by simpa using hcollides
      exact absurd (Option.some.inj (hq.symm.trans hpoint)) (htelling _ _ _ _ hlabel)
    · cases hcollides

/-- What one turn of a worker does to the notices on their way to an observer. -/
theorem System.untold_of_step (hl : l.worker? = some run) (hq : s.point? run = some q)
    (hnodup : q.queue.Nodup) (hcalm : (Moment.mk s l).tearsNotice run = false)
    (h : s.step setup l = some s') : ∃ q', s'.point? run = some q' ∧
      (q'.isDrained = false → q.isDrained = false) ∧
        ∀ o, (q.announces? = none ∨ o ∈ s.roster.members) →
          q.untold o ++ q.announces?.toList = (q.tells? o).toList ++ q'.untold o := by
  cases ha : q.announces? with
  | some notice =>
    obtain ⟨q', hq', -, huntold⟩ := announce_of_step hl hq ha h
    refine ⟨q', hq', fun _ => ?_, fun o ho => ?_⟩
    · cases q <;> first | rfl | cases ha
    · have hmem : o ∈ s.roster.members := ho.resolve_left (by simp)
      rw [huntold, if_pos hmem]
      cases q <;> first | rfl | cases ha
  | none =>
    by_cases hcall : ∃ c, l = .call run c
    · obtain ⟨c, rfl⟩ := hcall
      obtain ⟨state, hbody, rfl⟩ := step_call h
      obtain ⟨q', hq', -, huntold, -⟩ : ∃ q', (s.call setup run c).point? run = some q' ∧
          q'.queue = [] ∧ (∀ o, q'.untold o = []) ∧ _ := quiet_of_call hbody
      obtain rfl := Option.some.inj (hbody.symm.trans hq)
      exact ⟨q', hq', fun _ => rfl, fun o _ => by rw [huntold]; rfl⟩
    · obtain ⟨q₀, q', hq₀, hq', hnext, htelling⟩ :=
        next_of_calm hl (fun c he => hcall ⟨c, he⟩) hcalm h
      obtain rfl := Option.some.inj (hq.symm.trans hq₀)
      refine ⟨q', hq', hnext.isDrained, fun o _ => ?_⟩
      rw [Option.toList_none, List.append_nil]
      exact hnext.untold ha hnodup htelling o

theorem System.isDrained_of_step (hq : s.point? run = some q) (h : s.step setup l = some s') :
    ∃ q', s'.point? run = some q' ∧ (q'.isDrained = false → q.isDrained = false) := by
  by_cases hl : l.worker? = some run
  · by_cases hcall : ∃ c, l = .call run c
    · obtain ⟨c, rfl⟩ := hcall
      obtain ⟨state, hbody, rfl⟩ := step_call h
      obtain ⟨q', hq', -⟩ : ∃ q', (s.call setup run c).point? run = some q' ∧ _ :=
        quiet_of_call hbody
      obtain rfl := Option.some.inj (hbody.symm.trans hq)
      exact ⟨q', hq', fun _ => rfl⟩
    · obtain ⟨q₀, hq₀, ⟨q', hq', -, hnext⟩ | ⟨-, rfl⟩⟩ :=
        next_of_step hl (fun c he => hcall ⟨c, he⟩) h
      · obtain rfl := Option.some.inj (hq.symm.trans hq₀)
        exact ⟨q', hq', hnext.isDrained⟩
      · exact ⟨q, hq, id⟩
  · obtain he | ⟨-, hnone, -⟩ | ⟨he, -⟩ := (stepped_of_step h).point?_cases hl
    · exact ⟨q, he.trans hq, id⟩
    · cases hnone.symm.trans hq
    · exact ⟨q.wake, by rw [he, hq, Option.map_some], by simp⟩

theorem System.undrained_of_step (hs : s.step setup l = some s')
    (hd : ∀ q, s'.point? run = some q → q.isDrained = false) :
    ∀ q, s.point? run = some q → q.isDrained = false := fun q hq => by
  obtain ⟨q', hq', hback⟩ := isDrained_of_step hq hs
  exact hback (hd q' hq')

/-- A run takes its observers by putting all those who are on the roster on its list. -/
theorem System.finishing_of_draining {result : RunResult} {elapsed : ℕ}
    (hq : s.point? run = some (.draining result))
    (h : s.step setup (.advance run elapsed) = some s') :
    s'.roster = .empty ∧ s'.point? run = some (.finishing result s.roster.members) := by
  obtain ⟨⟨args, q⟩, hq', hturn⟩ := turn_of_step rfl h
  obtain rfl := Option.some.inj (hq.symm.trans hq')
  obtain rfl := Option.some.inj hturn
  exact ⟨rfl, point?_goto (p := .draining result) hq⟩

/-! ## Who attends a run -/

/-- While a run that has been started has its observers on the roster, no other run drains it. -/
theorem Trail.eq_of_draining {directory : String} {r : RunId} {result : RunResult}
    (hp : Trail setup (System.initial setup directory) p s)
    (hcount : run < p.countP Moment.starts)
    (hdrained : ∀ q, s.point? run = some q → q.isDrained = false)
    (hr : s.point? r = some (.draining result)) : r = run := by
  have ho := hp.reachable.orderly
  have hphase : s.phase? r = some .busy := by
    rw [System.phase?, hr]
    rfl
  cases hq : s.point? run with
  | none =>
    -- the run would be on its way to the pool
    rw [hp.starts_eq, ho.owed_eq_zero hphase rfl, Nat.add_zero] at hcount
    have hsome : s.point? run ≠ none := by simp [System.point?, hcount]
    exact absurd hq hsome
  | some q =>
    have hlive := Point.isOver_eq_false_of_isDrained (hdrained q hq)
    exact ho.eq_of_phase hphase rfl (by rw [System.phase?, hq, Option.map_some]) hlive

/-- While a run that has been started has its observers on the roster, an observer whom nobody
removes stays there. -/
theorem Trail.member_of_step {directory : String}
    (hp : Trail setup (System.initial setup directory) p s) (hs : s.step setup l = some s')
    (hcount : run < p.countP Moment.starts)
    (hdrained : ∀ q, s'.point? run = some q → q.isDrained = false)
    (hx : (Moment.mk s l).removes o = false) (hmem : o ∈ s.roster.members) :
    o ∈ s'.roster.members := by
  have hregisters := System.registers_of_step hs
  generalize s'.roster = r at hregisters ⊢
  cases hregisters with
  | keep => exact hmem
  | add =>
    unfold Roster.add
    split_ifs
    · exact hmem
    · exact List.mem_append_left _ hmem
  | remove =>
    refine List.mem_filter.2 ⟨hmem, decide_eq_true ?_⟩
    rintro rfl
    simp [Moment.removes] at hx
  | drain hr =>
    obtain rfl := hp.eq_of_draining hcount (System.undrained_of_step hs hdrained) hr
    cases hdrained _ (System.finishing_of_draining hr hs).2

/-- **An observer who attends a run is on the roster until the run takes everybody off it.** -/
theorem Trail.registered {directory : String}
    (hp : Trail setup (System.initial setup directory) p s) (ha : attends run o p = true) :
    run < p.countP Moment.starts ∧
      ((∀ q, s.point? run = some q → q.isDrained = false) → o ∈ s.roster.members) := by
  induction hp with
  | nil => cases ha
  | @cons p s s' l hp hs ih =>
    unfold attends at ha
    split_ifs at ha with hstart
    · -- the run is started
      rw [Bool.and_eq_true, beq_iff_eq] at hstart
      refine ⟨by simp [hstart.1, hstart.2], fun _ => ?_⟩
      have hregisters := System.registers_of_step hs
      generalize s'.roster = r at hregisters ⊢
      cases hregisters with
      | keep => exact of_decide_eq_true ha
      | add | remove | drain => cases hstart.1
    · rw [Bool.and_eq_true, Bool.or_eq_true, Bool.not_eq_true'] at ha
      obtain ⟨hcount, hbefore⟩ := ih ha.1
      refine ⟨hcount.trans_le (List.countP_cons ▸ Nat.le_add_right _ _), fun hdrained => ?_⟩
      have hdrained' := System.undrained_of_step hs hdrained
      refine hp.member_of_step hs hcount hdrained (ha.2.resolve_right fun hover => ?_)
        (hbefore hdrained')
      cases hq : s.point? run with
      | none => simp [System.phase?, hq] at hover
      | some q =>
        simp [System.phase?, hq, Point.isOver_eq_false_of_isDrained (hdrained' q hq)] at hover

theorem Trail.point?_of_starts {directory : String}
    (hp : Trail setup (System.initial setup directory) p s)
    (hcount : p.countP Moment.starts ≤ run) : s.point? run = none := by
  rw [hp.starts_eq] at hcount
  have hlen : s.tasks.length ≤ run := (Nat.le_add_right _ _).trans hcount
  rw [System.point?, List.getElem?_eq_none hlen, Option.map_none]

theorem Trail.heard_of_unseen {directory : String}
    (hp : Trail setup (System.initial setup directory) p s) (hq : s.point? run = none) :
    heard run o p = [] ∧ announced run p = [] := by
  have hunseen := hp.worker?_of_unseen hq
  rw [heard, announced, filterMap_at?_of_unseen hunseen, filterMap_at?_of_unseen hunseen]
  exact ⟨rfl, rfl⟩

/-- **An observer who attends a run hears every notice of it, once and in order**, unless an
observer panics in a notification. -/
theorem Trail.heard_eq {directory : String}
    (hp : Trail setup (System.initial setup directory) p s)
    (hcalm : p.any (Moment.tearsNotice run) = false) (ha : attends run o p = true)
    (hq : s.point? run = some q) : heard run o p ++ q.untold o = announced run p := by
  induction hp generalizing q with
  | nil => cases ha
  | @cons p s s' l hp hs ih =>
    rw [List.any_cons, Bool.or_eq_false_iff] at hcalm
    -- a run comes to the pool after its start
    have hseen : ∀ q, s.point? run = some q → attends run o p = true := fun q hq => by
      unfold attends at ha
      split_ifs at ha with hstart
      · rw [Bool.and_eq_true, beq_iff_eq] at hstart
        cases (hp.point?_of_starts hstart.2.le).symm.trans hq
      · exact (Bool.and_eq_true _ _ ▸ ha).1
    rw [heard_cons, announced_cons]
    by_cases hl : l.worker? = some run
    · obtain ⟨⟨args, q₀⟩, hq₀, -⟩ := System.turn_of_step hl hs
      have hbefore := hseen q₀ hq₀
      obtain ⟨q', hq', hdrained, huntold⟩ := System.untold_of_step hl hq₀
        (hp.reachable.nodup_queue run q₀ hq₀) hcalm.1 hs
      obtain rfl := Option.some.inj (hq'.symm.trans hq)
      have hmem : q₀.announces? = none ∨ o ∈ s.roster.members := by
        cases hannounces : q₀.announces? with
        | none => exact .inl rfl
        | some notice =>
          refine .inr ((hp.registered hbefore).2 fun q₁ hq₁ => ?_)
          obtain rfl := Option.some.inj (hq₀.symm.trans hq₁)
          cases q₀ <;> first | rfl | cases hannounces
      rw [Moment.at?_of_worker hl hq₀, Moment.at?_of_worker hl hq₀, List.append_assoc,
        ← huntold o hmem, ← List.append_assoc, ih hcalm.2 hbefore hq₀]
    · rw [Moment.at?_of_other hl, Moment.at?_of_other hl, Option.toList_none, List.append_nil,
        List.append_nil]
      obtain he | ⟨-, hnone, hqueued⟩ | ⟨he, -⟩ := (System.stepped_of_step hs).point?_cases hl
      · exact ih hcalm.2 (hseen q (he ▸ hq)) (he ▸ hq)
      · obtain rfl := Option.some.inj (hqueued.symm.trans hq)
        obtain ⟨hheard, hannounced⟩ := hp.heard_of_unseen (o := o) hnone
        rw [hheard, hannounced]
        rfl
      · rw [he] at hq
        obtain ⟨q₀, hq₀, rfl⟩ := Option.map_eq_some_iff.1 hq
        rw [Point.untold_wake]
        exact ih hcalm.2 (hseen q₀ hq₀) hq₀

end RunControl
