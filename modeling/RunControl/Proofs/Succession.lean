import RunControl.Proofs.Enrolment

/-!
# One run after the other

A run stops being alive before it tells its observers of the end, so the next run can begin while
they are told. An observer sees the runs one after the other, but for the end of a run, which can
come late to one who is put on the roster again.

* `Moment.drains`, `Moment.adds`, `readded`: an observer is put on the roster after a run has taken
  everybody off it;
* `Succession`, **`Trail.succeeding`**: whoever a later run can tell something has been put on the
  roster since;
* **`Trail.succession`**: what of a run can be told after something of a later run;
* `overtaken`: the end of a run that comes late.
-/

namespace RunControl

variable {κ : Type}

namespace Moment

/-- The run takes its observers off the roster. -/
def drains (run : RunId) (x : Moment κ) : Bool :=
  match x.label, x.state.point? run with
  | .advance r _, some (.draining _) => r = run
  | _, _ => false

/-- The observer, who is not on the roster, is put there. -/
def adds (o : ObserverId) (x : Moment κ) : Bool :=
  match x.label with
  | .act _ (.addObserver added) => added = o && o ∉ x.state.roster.members
  | _ => false

end Moment

/-- The observer has been put on the roster after the run took everybody off it. -/
def readded (run : RunId) (o : ObserverId) : List (Moment κ) → Bool
  | [] => false
  | x :: p => x.adds o && p.any (Moment.drains run) || readded run o p

variable {setup : Setup κ} {s s₁ s' : System κ} {m p : List (Moment κ)} {l : Label κ}
  {a b run : RunId} {q q' : Point κ} {o : ObserverId} {notice : Notice} {x : Moment κ}

theorem readded_cons_of_worker (hl : x.label.worker? = some run) :
    readded b o (x :: p) = readded b o p := by
  have hx : x.adds o = false := by
    unfold Moment.adds
    split
    · next he =>
      rw [he] at hl
      cases hl
    · rfl
  rw [readded, hx, Bool.false_and, Bool.false_or]

theorem readded_cons (h : readded b o p = true) : readded b o (x :: p) = true := by
  rw [readded, h, Bool.or_true]

/-! ## What a step changes -/

theorem Moment.drains_cases (h : (Moment.mk s l).drains run = true) :
    ∃ elapsed result, l = .advance run elapsed ∧ s.point? run = some (.draining result) := by
  unfold drains at h
  split at h
  · next r elapsed result hl hq =>
    obtain rfl : r = run := of_decide_eq_true h
    exact ⟨elapsed, result, hl, hq⟩
  · cases h

theorem Trail.drains_of_isDrained {directory : String}
    (hp : Trail setup (System.initial setup directory) p s) (h : s.isDrained run = true) :
    p.any (Moment.drains run) = true := by
  induction hp with
  | nil => cases h
  | @cons p s s' l hp hs ih =>
    rw [List.any_cons, Bool.or_eq_true]
    cases hd : s.isDrained run with
    | true => exact .inr (ih hd)
    | false =>
      obtain ⟨-, elapsed, result, rfl, hq, -⟩ := System.finishing_of_step hs hd h
      refine .inl ?_
      simp [Moment.drains, hq]

/-- A run that takes its observers leaves nobody on the roster and is about to be no longer
alive. -/
theorem System.finishing_of_drains (hs : s.step setup l = some s')
    (h : (Moment.mk s l).drains run = true) :
    s'.roster = .empty ∧ ∃ result watchers, s'.point? run = some (.finishing result watchers) := by
  obtain ⟨elapsed, result, rfl, hq⟩ := Moment.drains_cases h
  obtain ⟨hroster, hq'⟩ := finishing_of_draining hq hs
  exact ⟨hroster, result, s.roster.members, hq'⟩

theorem System.isOver_of_later (ho : Orderly s) (hb : s.point? b = some q)
    (ha : s.point? a = some q') (hlt : b < a) : q.phase.isOver = true := by
  by_contra hover
  have hlast : b + 1 = s.tasks.length :=
    ho.latest (f := q.phase) (by rw [phase?, hb, Option.map_some]) (by simpa using hover)
  obtain ⟨t, ht, -⟩ := point?_eq_some_iff.1 ha
  have hlength : a < b + 1 := hlast ▸ (List.getElem?_eq_some_iff.1 ht).1
  exact Nat.lt_irrefl b (Nat.lt_of_lt_of_le hlt (Nat.le_of_lt_succ hlength))

/-! ## Put on the roster again -/

/-- What holds of an observer in the state `s` to which the steps `p` have led: who is on the
roster, or on the list of a later run, has been put there since a run took everybody off it. -/
structure Succession (o : ObserverId) (p : List (Moment κ)) (s : System κ) : Prop where
  roster : ∀ b, p.any (Moment.drains b) = true → o ∈ s.roster.members → readded b o p = true
  queue : ∀ b a q, p.any (Moment.drains b) = true → b < a → s.point? a = some q → o ∈ q.queue →
    readded b o p = true

namespace Succession

theorem initial (directory : String) : Succession o [] (System.initial setup directory) where
  roster _ h := by cases h
  queue _ _ _ h := by cases h

theorem roster_step (h : Succession o p s) (hs : s.step setup l = some s')
    (hb : ((⟨s, l⟩ :: p : List (Moment κ)).any (Moment.drains b)) = true)
    (ho : o ∈ s'.roster.members) : readded b o (⟨s, l⟩ :: p) = true := by
  rw [List.any_cons, Bool.or_eq_true] at hb
  obtain hb | hb := hb
  · rw [(System.finishing_of_drains hs hb).1] at ho
    cases ho
  · have hregisters := System.registers_of_step hs
    generalize s'.roster = r at hregisters ho
    cases hregisters with
    | keep => exact readded_cons (h.roster b hb ho)
    | @add t added =>
      by_cases hmem : o ∈ s.roster.members
      · exact readded_cons (h.roster b hb hmem)
      · have hadded : added = o := by
          unfold Roster.add at ho
          split_ifs at ho
          · exact absurd ho hmem
          · exact (List.mem_singleton.1 ((List.mem_append.1 ho).resolve_left hmem)).symm
        simp [readded, Moment.adds, hadded, hmem, hb]
    | remove => exact readded_cons (h.roster b hb (List.mem_filter.1 ho).1)
    | drain => cases ho

theorem queue_step (hr : Reachable setup s) (h : Succession o p s) (hs : s.step setup l = some s')
    (hb : ((⟨s, l⟩ :: p : List (Moment κ)).any (Moment.drains b)) = true) (hlt : b < a)
    (hq' : s'.point? a = some q') (ho : o ∈ q'.queue) : readded b o (⟨s, l⟩ :: p) = true := by
  rw [List.any_cons, Bool.or_eq_true] at hb
  obtain hb | hb := hb
  · -- no later run has come to the pool
    obtain ⟨-, result, watchers, hfinishing⟩ := System.finishing_of_drains hs hb
    cases System.isOver_of_later (hr.step hs).orderly hfinishing hq' hlt
  · obtain hqueue | hqueue | ⟨q, hq, hsublist⟩ := System.queue_of_step hs hq'
    · exact readded_cons (h.roster b hb (hqueue ▸ ho))
    · rw [hqueue] at ho
      cases ho
    · exact readded_cons (h.queue b a q hb hlt hq (hsublist.subset ho))

theorem step (hr : Reachable setup s) (h : Succession o p s) (hs : s.step setup l = some s') :
    Succession o (⟨s, l⟩ :: p) s' where
  roster _ hb ho := h.roster_step hs hb ho
  queue _ _ _ hb hlt hq' ho := h.queue_step hr hs hb hlt hq' ho

end Succession

/-- **Whoever is on the list of a run has been put on the roster since every earlier run took its
observers.** -/
theorem Trail.succeeding {directory : String}
    (hp : Trail setup (System.initial setup directory) p s) : Succession o p s := by
  induction hp with
  | nil => exact .initial directory
  | cons hp hs ih => exact ih.step hp.reachable hs

/-! ## What comes late -/

theorem Point.mem_queue_of_tells? (h : q.tells? o = some notice) : o ∈ q.queue := by
  cases q with
  | telling _ queue _ | ending _ queue =>
    cases queue with
    | nil => cases h
    | cons first queue =>
      obtain ⟨rfl, -⟩ : first = o ∧ _ := by simpa [tells?] using h
      exact List.mem_cons_self
  | _ => cases h

theorem Point.eq_ended_of_mem_farewell (h : notice ∈ q.farewell o) :
    ∃ result, notice = .ended result := by
  unfold Point.farewell at h
  split at h
  · split_ifs at h
    · exact ⟨_, List.mem_singleton.1 h⟩
    · cases h
  · split_ifs at h
    · exact ⟨_, List.mem_singleton.1 h⟩
    · cases h
  · cases h

theorem Moment.point?_of_begins? (hs : s.step setup l = some s')
    (h : (Moment.mk s l).begins? setup o = some (run, notice)) :
    ∃ q, s'.point? run = some q ∧ q.tells? o = some notice := by
  have hl : l.worker? = some run := Moment.worker?_of_begins? h
  obtain ⟨t, q, ht⟩ := System.turned_of_step hl hs
  have hq := ht.point?.2
  refine ⟨q, hq, ?_⟩
  cases ha : s'.aborted with
  | true => cases (begins?_of_aborted hs ha).symm.trans h
  | false =>
    rw [begins?_of_worker hs hl hq ha] at h
    obtain ⟨n, hn, hc⟩ := Option.map_eq_some_iff.1 h
    rw [hn, (Prod.mk.inj hc).2]

/-- **After the first callback of a later run, an observer is told nothing of a run but of its
end**, and that only if it has been put on the roster between the moment in which the run took its
observers and that callback. -/
theorem Trail.succession {directory : String} {notice' : Notice}
    (hp : Trail setup (System.initial setup directory) p s) (hs : s.step setup l = some s₁)
    (hm : Trail setup s₁ m s') (ha : (Moment.mk s l).begins? setup o = some (a, notice))
    (hb : (b, notice') ∈ callbacks setup o m) (hlt : b < a) :
    (∃ result, notice' = .ended result) ∧ readded b o p = true := by
  have hp₁ := hp.cons hs
  have ho := hp₁.reachable.orderly
  obtain ⟨q', hq', htells⟩ := Moment.point?_of_begins? hs ha
  obtain ⟨t, ht, rfl⟩ := System.point?_eq_some_iff.1 hq'
  have hlength : b < s₁.tasks.length := Nat.lt_trans hlt (List.getElem?_eq_some_iff.1 ht).1
  have hq : s₁.point? b = some s₁.tasks[b].point := by
    rw [System.point?, List.getElem?_eq_getElem hlength, Option.map_some]
  have hdrained := Point.isDrained_of_isOver (System.isOver_of_later ho hq hq' hlt)
  obtain ⟨_, -, -, hleft⟩ := hm.tellings_of_drained o hp₁.reachable hq hdrained
  constructor
  · have hmem : notice' ∈ s₁.tasks[b].point.farewell o :=
      hleft ▸ List.mem_append_left _ (mem_tellings.2 hb)
    exact Point.eq_ended_of_mem_farewell hmem
  · rw [← readded_cons_of_worker (Moment.worker?_of_begins? ha)]
    exact hp₁.succeeding.queue b a t.point
      (hp₁.drains_of_isDrained (System.isDrained_eq_true_iff.2 ⟨_, hq, hdrained⟩)) hlt hq'
      (Point.mem_queue_of_tells? htells)

/-! ## An end that comes late -/

/-- A run with two observers goes on to its end and tells the first of it, who puts the second on
the roster again and starts a run, and this run is about to tell the second that it has started. -/
def succeeded : List (Label Unit) :=
  [.act (.controller 0) (.addObserver "a"), .act (.controller 0) (.addObserver "b")] ++
    (toBody .breakpoint).take 4 ++ [.returned 0, .returned 0, .advance 0 0, .advance 0 0,
      .call 0 (.finish (.ok ())), .advance 0 0, .advance 0 0, .advance 0 0, .advance 0 0,
      .act (.worker 0) (.addObserver "b"), .act (.worker 0) (.start [] .breakpoint),
      .complete (.worker 0), .advance 1 0]

/-- The second run tells the second observer that it has started, and then the first run tells it of
its end. -/
theorem overtaken :
    let setup : Setup Unit := Setup.bare ()
    let s₀ := System.initial setup ""
    let labels := succeeded ++ [.advance 1 0, .returned 0]
    ∃ s', s₀.steps setup labels = some s' ∧ callbacks setup "b" (s₀.moments setup labels) =
      [(0, .started), (1, .started), (0, .ended (.normal 0))] :=
  ⟨_, rfl, rfl⟩

/-- The second observer has been put on the roster in between. -/
theorem succession_overtaken :
    let setup : Setup Unit := Setup.bare ()
    let s₀ := System.initial setup ""
    let past := s₀.moments setup succeeded
    ∃ s s₁ s', s₀.steps setup succeeded = some s ∧ s.step setup (.advance 1 0) = some s₁ ∧
      s₁.steps setup [.returned 0] = some s' ∧
      (Moment.mk s (.advance 1 0)).begins? setup "b" = some (1, .started) ∧
      (0, .ended (.normal 0)) ∈ callbacks setup "b" (s₁.moments setup [.returned 0]) ∧
      (∃ result, Notice.ended (.normal 0) = .ended result) ∧ readded 0 "b" past = true := by
  refine ⟨_, _, _, rfl, rfl, rfl, rfl, List.mem_cons_self, ?_⟩
  exact Trail.succession (l := .advance 1 0) (m := System.moments _ _ [.returned 0])
    (trail_of_steps rfl) rfl (trail_of_steps rfl) rfl List.mem_cons_self Nat.zero_lt_one

end RunControl
