import Mathlib.Data.List.Induction
import RunControl.Observers

/-!
# The registry of observers

Callbacks add, remove, drain and notify while they are being called, and may panic. What happened so
far still determines who is registered, and in which order: `Lists` says it without a roster, by the
registrations that hold. Whatever happens agrees with the list of that moment. `Script.Does` says
what a script and its callbacks do, and leaves only open what the list decides.

* `registered_concat_iff`, `registeredAt_concat_iff`: who is registered when one more thing has
  happened, and since when;
* `Lists.concat`, `Lists.unique`: the list follows what happens, and there is one list only;
* `Script.does_run`, `Sound.run`: a script does what it says, and that agrees with the list;
* `Script.Calls.deliver_eq`, `Script.Does.run_eq`: both together leave nothing open;
* **`Script.lawful_iff`**: what comes of a script is what this law demands, and nothing else.
-/

namespace RunControl.Roster

variable {α : Type}

/-! ## Who is registered -/

/-- Earlier registrations of the observer end here. -/
def Happening.Forgets (e : Happening α) (o : α) : Prop :=
  match e with
  | removed o' => o' = o
  | drained _ => True
  | _ => False

/-- After all of `h` the observer is registered: it was added, and has not been forgotten since. -/
def Registered (h : List (Happening α)) (o : α) : Prop :=
  ∃ before after, h = before ++ .added o :: after ∧ ∀ e ∈ after, ¬ e.Forgets o

/-- It is registered since the happening of number `i`. To add one who is registered changes
nothing. -/
def RegisteredAt (h : List (Happening α)) (o : α) (i : ℕ) : Prop :=
  ∃ before after, h = before ++ .added o :: after ∧ before.length = i ∧
    ¬ Registered before o ∧ ∀ e ∈ after, ¬ e.Forgets o

/-- The observers that are registered after `h`, in the order of their registrations. -/
structure Lists (h : List (Happening α)) (l : List α) : Prop where
  mem_iff : ∀ o, o ∈ l ↔ Registered h o
  sorted : l.Pairwise fun o o' => ∃ i i', RegisteredAt h o i ∧ RegisteredAt h o' i' ∧ i < i'

variable {h : List (Happening α)} {e : Happening α} {l : List α} {o : α} {i j : ℕ}

theorem registered_concat_iff :
    Registered (h ++ [e]) o ↔ Registered h o ∧ ¬ e.Forgets o ∨ e = .added o := by
  constructor
  · rintro ⟨before, after, heq, hkept⟩
    obtain rfl | ⟨after, last, rfl⟩ := after.eq_nil_or_concat
    · obtain ⟨rfl, hlast⟩ := List.append_inj' heq rfl
      exact .inr (List.head_eq_of_cons_eq hlast)
    · rw [List.concat_eq_append, ← List.cons_append, ← List.append_assoc] at heq
      obtain ⟨rfl, hlast⟩ := List.append_inj' heq rfl
      obtain rfl := List.head_eq_of_cons_eq hlast
      rw [List.concat_eq_append, List.forall_mem_append, List.forall_mem_singleton] at hkept
      exact .inl ⟨⟨before, after, rfl, hkept.1⟩, hkept.2⟩
  · rintro (⟨⟨before, after, rfl, hkept⟩, hlast⟩ | rfl)
    · refine ⟨before, after ++ [e], by simp, ?_⟩
      rw [List.forall_mem_append, List.forall_mem_singleton]
      exact ⟨hkept, hlast⟩
    · exact ⟨h, [], rfl, by simp⟩

theorem registeredAt_concat_iff : RegisteredAt (h ++ [e]) o i ↔
    RegisteredAt h o i ∧ ¬ e.Forgets o ∨ h.length = i ∧ e = .added o ∧ ¬ Registered h o := by
  constructor
  · rintro ⟨before, after, heq, hi, hnew, hkept⟩
    obtain rfl | ⟨after, last, rfl⟩ := after.eq_nil_or_concat
    · obtain ⟨rfl, hlast⟩ := List.append_inj' heq rfl
      exact .inr ⟨hi, List.head_eq_of_cons_eq hlast, hnew⟩
    · rw [List.concat_eq_append, ← List.cons_append, ← List.append_assoc] at heq
      obtain ⟨rfl, hlast⟩ := List.append_inj' heq rfl
      obtain rfl := List.head_eq_of_cons_eq hlast
      rw [List.concat_eq_append, List.forall_mem_append, List.forall_mem_singleton] at hkept
      exact .inl ⟨⟨before, after, rfl, hi, hnew, hkept.1⟩, hkept.2⟩
  · rintro (⟨⟨before, after, rfl, hi, hnew, hkept⟩, hlast⟩ | ⟨hi, rfl, hnew⟩)
    · refine ⟨before, after ++ [e], by simp, hi, hnew, ?_⟩
      rw [List.forall_mem_append, List.forall_mem_singleton]
      exact ⟨hkept, hlast⟩
    · exact ⟨h, [], rfl, hi, hnew, by simp⟩

theorem not_registered_nil : ¬ Registered ([] : List (Happening α)) o := by
  rintro ⟨before, after, heq, -⟩
  simp at heq

theorem Registered.exists_at (hr : Registered h o) : ∃ i, RegisteredAt h o i := by
  induction h using List.reverseRecOn with
  | nil => exact absurd hr not_registered_nil
  | append_singleton h e ih =>
    simp only [registeredAt_concat_iff]
    obtain ⟨hr, hkept⟩ | rfl := registered_concat_iff.1 hr
    · obtain ⟨i, hi⟩ := ih hr
      exact ⟨i, .inl ⟨hi, hkept⟩⟩
    · by_cases hr : Registered h o
      · obtain ⟨i, hi⟩ := ih hr
        exact ⟨i, .inl ⟨hi, id⟩⟩
      · exact ⟨h.length, .inr ⟨rfl, rfl, hr⟩⟩

theorem RegisteredAt.registered (hi : RegisteredAt h o i) : Registered h o := by
  obtain ⟨before, after, rfl, -, -, hkept⟩ := hi
  exact ⟨before, after, rfl, hkept⟩

theorem RegisteredAt.lt_length (hi : RegisteredAt h o i) : i < h.length := by
  obtain ⟨before, after, rfl, rfl, -⟩ := hi
  simp

theorem RegisteredAt.unique (hi : RegisteredAt h o i) (hj : RegisteredAt h o j) : i = j := by
  induction h using List.reverseRecOn with
  | nil => exact absurd hi.lt_length (Nat.not_lt_zero i)
  | append_singleton h e ih =>
    obtain ⟨hi, -⟩ | ⟨rfl, -, hnew⟩ := registeredAt_concat_iff.1 hi
    · obtain ⟨hj, -⟩ | ⟨-, -, hnew⟩ := registeredAt_concat_iff.1 hj
      · exact ih hi hj
      · exact absurd hi.registered hnew
    · obtain ⟨hj, -⟩ | ⟨rfl, -⟩ := registeredAt_concat_iff.1 hj
      · exact absurd hj.registered hnew
      · rfl

/-! ## The list -/

theorem Lists.nil : Lists ([] : List (Happening α)) [] :=
  ⟨fun _ => iff_of_false List.not_mem_nil not_registered_nil, .nil⟩

theorem Lists.nodup (hl : Lists h l) : l.Nodup := by
  refine hl.sorted.imp ?_
  rintro o _ ⟨i, j, hi, hj, hij⟩ rfl
  exact absurd (hi.unique hj) (Nat.ne_of_lt hij)

/-- There is one list only. -/
theorem Lists.unique {l' : List α} (hl : Lists h l) (hl' : Lists h l') : l = l' := by
  have hperm : l.Perm l' := (List.perm_ext_iff_of_nodup hl.nodup hl'.nodup).2 fun o =>
    (hl.mem_iff o).trans (hl'.mem_iff o).symm
  refine hperm.eq_of_pairwise ?_ hl.sorted hl'.sorted
  rintro o o' - - ⟨i, j, hi, hj, hij⟩ ⟨j', i', hj', hi', hji⟩
  obtain rfl := hi.unique hi'
  obtain rfl := hj.unique hj'
  exact absurd hij (Nat.lt_asymm hji)

/-- Some of the observers are forgotten, and nobody is added. -/
theorem Lists.concat (hl : Lists h l) {l' : List α} (hsub : l'.Sublist l)
    (hmem : ∀ o, o ∈ l' ↔ o ∈ l ∧ ¬ e.Forgets o) (hadded : ∀ o, e = .added o → o ∈ l) :
    Lists (h ++ [e]) l' := by
  refine ⟨fun o => ?_, (hl.sorted.sublist hsub).imp_of_mem ?_⟩
  · rw [hmem, hl.mem_iff, registered_concat_iff]
    refine ⟨.inl, ?_⟩
    rintro (h | rfl)
    · exact h
    · exact ⟨(hl.mem_iff o).1 (hadded o rfl), id⟩
  · rintro o o' ho ho' ⟨i, j, hi, hj, hij⟩
    exact ⟨i, j, registeredAt_concat_iff.2 (.inl ⟨hi, ((hmem o).1 ho).2⟩),
      registeredAt_concat_iff.2 (.inl ⟨hj, ((hmem o').1 ho').2⟩), hij⟩

theorem Lists.drain (hl : Lists h l) : Lists (h ++ [.drained l]) [] :=
  hl.concat l.nil_sublist (fun _ => iff_of_false List.not_mem_nil fun h => h.2 trivial)
    (by rintro o ⟨⟩)

theorem Lists.notified (hl : Lists h l) (notice : Notice) (told : List (α × Option Payload)) :
    Lists (h ++ [.notified notice told]) l :=
  hl.concat (.refl l) (fun _ => ⟨fun h => ⟨h, id⟩, And.left⟩) (by rintro o ⟨⟩)

theorem Lists.called (hl : Lists h l) (o : α) (notice : Notice) :
    Lists (h ++ [.called o notice]) l :=
  hl.concat (.refl l) (fun _ => ⟨fun h => ⟨h, id⟩, And.left⟩) (by rintro o ⟨⟩)

section Change

variable [DecidableEq α]

theorem Lists.remove {r : Roster α} (hl : Lists h r.members) (o : α) :
    Lists (h ++ [.removed o]) (r.remove o).members := by
  refine hl.concat List.filter_sublist (fun o' => ?_) (by rintro o ⟨⟩)
  rw [Roster.remove, List.mem_filter, decide_eq_true_eq]
  exact and_congr_right fun _ => ne_comm

theorem Lists.add {r : Roster α} (hl : Lists h r.members) (o : α) :
    Lists (h ++ [.added o]) (r.add o).members := by
  rw [Roster.add]
  split_ifs with ho
  · refine hl.concat (.refl _) (fun _ => ⟨fun h => ⟨h, id⟩, And.left⟩) ?_
    rintro _ ⟨⟩
    exact ho
  · have hnew : ¬ Registered h o := fun h => ho ((hl.mem_iff o).2 h)
    refine ⟨fun o' => ?_, List.pairwise_append.2 ⟨?_, List.pairwise_singleton _ _, ?_⟩⟩
    · rw [List.mem_append, List.mem_singleton, hl.mem_iff, registered_concat_iff]
      refine or_congr ⟨fun h => ⟨h, id⟩, And.left⟩ ?_
      rw [Happening.added.injEq, eq_comm]
    · refine hl.sorted.imp ?_
      rintro o o' ⟨i, j, hi, hj, hij⟩
      exact ⟨i, j, registeredAt_concat_iff.2 (.inl ⟨hi, id⟩),
        registeredAt_concat_iff.2 (.inl ⟨hj, id⟩), hij⟩
    · intro o' ho' _ ho
      obtain rfl := List.mem_singleton.1 ho
      obtain ⟨i, hi⟩ := ((hl.mem_iff o').1 ho').exists_at
      exact ⟨i, h.length, registeredAt_concat_iff.2 (.inl ⟨hi, id⟩),
        registeredAt_concat_iff.2 (.inr ⟨rfl, rfl, hnew⟩), hi.lt_length⟩

end Change

/-! ## What scripts do -/

mutual

/-- The script does this and ends in this panic, if any. Whom a notification calls and what a drain
takes is open. -/
inductive Script.Does : Script α → List (Happening α) → Option Payload → Prop
  | done : Does .done [] none
  | panic (payload : Payload) : Does (.panic payload) [] (some payload)
  | add {o rest h x} : Does rest h x → Does (.add o rest) (.added o :: h) x
  | remove {o rest h x} : Does rest h x → Does (.remove o rest) (.removed o :: h) x
  | drain {taken rest h x} : Does (rest taken) h x → Does (.drain rest) (.drained taken :: h) x
  | notify {notice react rest told calls h x} : Calls react notice told calls none →
    Does rest h x → Does (.notify notice react rest) (.notified notice told :: (calls ++ h)) x
  | stop {notice react rest told calls payload} : Calls react notice told calls (some payload) →
    Does (.notify notice react rest) (.notified notice told :: calls) (some payload)
  | attempt {part rest h h' y x} : Does part h y → Does (rest y) h' x →
    Does (.attempt part rest) (h ++ h') x

/-- Calls of these observers, one after the other: each does what its callback says. A panic is that
of its callback, and the calls end with it. -/
inductive Script.Calls :
    (α → Script α) → Notice → List (α × Option Payload) → List (Happening α) → Option Payload → Prop
  | nil {react notice} : Calls react notice [] [] none
  | cons {react notice o told h calls x} : Does (react o) h none → Calls react notice told calls x →
    Calls react notice ((o, none) :: told) (.called o notice :: (h ++ calls)) x
  | panic {react notice o h payload} : Does (react o) h (some payload) →
    Calls react notice [(o, some payload)] (.called o notice :: h) (some payload)

end

theorem Script.calls_deliver (call : α → Roster α → Outcome α) {react : α → Script α}
    (notice : Notice)
    (hcall : ∀ o r, (react o).Does (call o r).happenings (call o r).panic) (queue : List α)
    (r : Roster α) : Calls react notice (Roster.deliver call notice queue r).told
      (Roster.deliver call notice queue r).happenings
      (Roster.deliver call notice queue r).panic := by
  induction queue generalizing r with
  | nil => exact .nil
  | cons o rest ih =>
    have hfirst := hcall o r
    rw [Roster.deliver]
    simp only
    split
    next payload hpanic =>
      rw [Outcome.panic_after] at hpanic ⊢
      rw [hpanic] at hfirst ⊢
      exact .panic hfirst
    next hpanic =>
      rw [Outcome.panic_after] at hpanic
      rw [hpanic] at hfirst
      exact .cons hfirst (ih _)

/-! ## What agrees with the list -/

/-- A notification calls the observers in the list, in order, up to the first that panics. -/
structure Tells (l : List α) (told : List (α × Option Payload)) : Prop where
  order : told.map (·.1) <+: l
  returned : ∀ t ∈ told.dropLast, t.2 = none
  complete : (∀ t ∈ told, t.2 = none) → told.map (·.1) = l

/-- Those are called who are in the queue, in order, up to the first that panics. -/
theorem tells_deliver (call : α → Roster α → Outcome α) (notice : Notice) (queue : List α)
    (r : Roster α) : Tells queue (Roster.deliver call notice queue r).told := by
  induction queue generalizing r with
  | nil => exact ⟨List.prefix_rfl, by simp [Roster.deliver], fun _ => rfl⟩
  | cons o rest ih =>
    rw [Roster.deliver]
    simp only
    split
    next payload hpanic => exact ⟨⟨rest, rfl⟩, by simp, by simp⟩
    next hpanic =>
      have htells := ih ((call o r).after (.called o notice)).roster
      refine ⟨(List.prefix_cons_inj o).2 htells.order, fun t ht => ?_, fun hall => ?_⟩
      · change t ∈ ((o, none) :: _).dropLast at ht
        by_cases hlast : (Roster.deliver call notice rest
            ((call o r).after (.called o notice)).roster).told = []
        · simp [hlast] at ht
        · rw [List.dropLast_cons_of_ne_nil hlast] at ht
          obtain rfl | ht := List.mem_cons.1 ht
          · rfl
          · exact htells.returned t ht
      · exact congrArg (o :: ·)
          (htells.complete fun t ht => hall t (List.mem_cons_of_mem _ ht))

theorem Tells.cons_inv {told : List (α × Option Payload)} {t : α × Option Payload}
    (ht : Tells (o :: l) (t :: told)) (hnone : t.2 = none) : t.1 = o ∧ Tells l told := by
  obtain ⟨ho, horder⟩ := List.cons_prefix_cons.1 ht.order
  refine ⟨ho, horder, fun u hu => ?_, fun hall => ?_⟩
  · refine ht.returned u ?_
    rw [List.dropLast_cons_of_ne_nil (List.ne_nil_of_mem ((List.dropLast_sublist _).subset hu))]
    exact List.mem_cons_of_mem _ hu
  · exact (List.cons.inj (ht.complete (List.forall_mem_cons.2 ⟨hnone, hall⟩))).2

section Change

variable [DecidableEq α]

/-- What can happen when those in `l` are registered, and leaves those in `l'` registered. -/
def Happening.Agrees (e : Happening α) (l l' : List α) : Prop :=
  match e with
  | added o => l' = if o ∈ l then l else l ++ [o]
  | removed o => l' = l.filter fun m => m ≠ o
  | drained taken => taken = l ∧ l' = []
  | notified _ told => Tells l told ∧ l' = l
  | called _ _ => l' = l

/-- All of `hs`, which happens after `h`, agrees with the list of its moment. -/
def Conforms (h hs : List (Happening α)) : Prop := ∀ before e after, hs = before ++ e :: after →
  ∃ l l', Lists (h ++ before) l ∧ Lists (h ++ before ++ [e]) l' ∧ e.Agrees l l'

/-- So does all that is recorded of a script, and in the end the roster. -/
structure Sound (h : List (Happening α)) (c : Outcome α) : Prop where
  agrees : Conforms h c.happenings
  roster : Lists (h ++ c.happenings) c.roster.members

variable {c next : Outcome α} {l' : List α}

theorem members_add (r : Roster α) (o : α) :
    (r.add o).members = if o ∈ r.members then r.members else r.members ++ [o] := by
  rw [Roster.add]
  split <;> rfl

theorem Sound.nothing {r : Roster α} (hl : Lists h r.members) (panic : Option Payload) :
    Sound h ⟨[], r, panic⟩ :=
  ⟨fun before e after heq => by simp at heq, by rwa [List.append_nil]⟩

theorem Sound.after (hl : Lists h l) (hl' : Lists (h ++ [e]) l') (he : e.Agrees l l')
    (hc : Sound (h ++ [e]) c) : Sound h (c.after e) := by
  refine ⟨fun before e' after heq => ?_, ?_⟩
  · obtain ⟨rfl, hcons⟩ | ⟨before', rfl, htail⟩ := List.append_eq_cons_iff.1 heq.symm
    · obtain ⟨rfl, rfl⟩ := List.cons.inj hcons
      exact ⟨l, l', by rwa [List.append_nil], by rwa [List.append_nil], he⟩
    · have hlater := hc.agrees before' e' after htail
      rwa [List.append_assoc] at hlater
  · have hroster := hc.roster
    rwa [List.append_assoc] at hroster

theorem Sound.andThen (hc : Sound h c) (hnext : Sound (h ++ c.happenings) next) :
    Sound h (c.andThen next) := by
  refine ⟨fun before e after heq => ?_, ?_⟩
  · obtain ⟨rest, rfl, hrest⟩ | ⟨rest, hrest, hcons⟩ := List.append_eq_append_iff.1 heq
    · have hlater := hnext.agrees rest e after hrest
      rwa [List.append_assoc] at hlater
    · obtain ⟨rfl, hfirst⟩ | ⟨after', rfl, rfl⟩ := List.append_eq_cons_iff.1 hcons.symm
      · -- what follows begins with it
        have hlater := hnext.agrees [] e after hfirst
        rw [List.append_nil] at hlater hrest
        rwa [← hrest]
      · exact hc.agrees before e after' hrest
  · have hroster := hnext.roster
    rwa [List.append_assoc] at hroster

/-! ## Every script keeps to the law -/

/-- **A round of calls**, each of which keeps to the law. -/
theorem Sound.deliver {call : α → Roster α → Outcome α} (notice : Notice)
    (hcall : ∀ o h r, Lists h r.members → Sound h (call o r)) (queue : List α)
    (h : List (Happening α)) (r : Roster α) (hr : Lists h r.members) :
    Sound h (Roster.deliver call notice queue r).toOutcome := by
  induction queue generalizing h r with
  | nil => exact .nothing hr none
  | cons o rest ih =>
    have hfirst : Sound h ((call o r).after (.called o notice)) :=
      .after hr (hr.called o notice) rfl (hcall o _ r (hr.called o notice))
    rw [Roster.deliver]
    simp only
    split
    next payload hpanic => exact hfirst
    next hpanic => exact hfirst.andThen (ih _ _ hfirst.roster)

/-- What a script is recorded to do is what it says. -/
theorem Script.does_run (s : Script α) (r : Roster α) :
    s.Does (s.run r).happenings (s.run r).panic := by
  induction s generalizing r with
  | done => exact .done
  | panic payload => exact .panic payload
  | add o rest ih => exact .add (ih _)
  | remove o rest ih => exact .remove (ih _)
  | drain rest ih => exact .drain (ih _ _)
  | notify notice react rest ihReact ih =>
    have hcalls := calls_deliver (fun o r => (react o).run r) notice ihReact r.members r
    rw [Script.run]
    split
    next payload hpanic =>
      rw [Outcome.panic_after] at hpanic ⊢
      rw [hpanic] at hcalls ⊢
      exact .stop hcalls
    next hpanic =>
      rw [Outcome.panic_after] at hpanic
      rw [hpanic] at hcalls
      exact .notify hcalls (ih _)
  | attempt part rest ihPart ih => exact .attempt (ihPart r) (ih _ _)

theorem Sound.run (s : Script α) (h : List (Happening α)) (r : Roster α) (hr : Lists h r.members) :
    Sound h (s.run r) := by
  induction s generalizing h r with
  | done => exact .nothing hr none
  | panic payload => exact .nothing hr (some payload)
  | add o rest ih => exact .after hr (hr.add o) (members_add r o) (ih _ _ (hr.add o))
  | remove o rest ih => exact .after hr (hr.remove o) rfl (ih _ _ (hr.remove o))
  | drain rest ih => exact .after hr hr.drain ⟨rfl, rfl⟩ (ih _ _ _ hr.drain)
  | notify notice react rest ihReact ih =>
    have htells := tells_deliver (fun o r => (react o).run r) notice r.members r
    have hbegun := Sound.after hr (hr.notified notice _) ⟨htells, rfl⟩
      (.deliver notice ihReact r.members _ r (hr.notified notice _))
    rw [Script.run]
    split
    next payload hpanic => exact hbegun
    next hpanic => exact hbegun.andThen (ih _ _ hbegun.roster)
  | attempt part rest ihPart ih =>
    have hpart := ihPart h r hr
    exact hpart.andThen (ih _ _ _ hpart.roster)

/-- The law of the registry for what comes of a script that begins when nobody is registered. What
happens is what the script and its callbacks say, panics included. Each thing agrees with those who
are registered at that moment, in the order of their registrations and nobody twice, and in the end
so does the roster, also after a panic. -/
structure Lawful (s : Script α) (c : Outcome α) : Prop where
  does : s.Does c.happenings c.panic
  agrees : ∀ before e after, c.happenings = before ++ e :: after →
    ∃ l l', l.Nodup ∧ Lists before l ∧ Lists (before ++ [e]) l' ∧ e.Agrees l l'
  roster : c.roster.members.Nodup ∧ Lists c.happenings c.roster.members

theorem Script.lawful_run (s : Script α) : Lawful s (s.run empty) := by
  have hsound : Sound [] (s.run empty) := .run s [] empty .nil
  refine ⟨s.does_run empty, fun before e after heq => ?_, hsound.roster.nodup, hsound.roster⟩
  obtain ⟨l, l', hl, hl', he⟩ := hsound.agrees before e after heq
  exact ⟨l, l', hl.nodup, hl, hl', he⟩

/-! ## The law leaves nothing open -/

variable {hs hs' calls : List (Happening α)} {told : List (α × Option Payload)}
  {x : Option Payload} {s : Script α}

theorem Conforms.head (hc : Conforms h (e :: hs)) (hl : Lists h l) : ∃ l', e.Agrees l l' := by
  obtain ⟨l₀, l', hl₀, -, he⟩ := hc [] e hs rfl
  rw [List.append_nil] at hl₀
  exact ⟨l', hl₀.unique hl ▸ he⟩

theorem Conforms.right (hc : Conforms h (hs ++ hs')) : Conforms (h ++ hs) hs' := by
  rintro before e after rfl
  have hlater := hc (hs ++ before) e after (by rw [List.append_assoc])
  rwa [← List.append_assoc] at hlater

theorem Conforms.left (hc : Conforms h (hs ++ hs')) : Conforms h hs := by
  rintro before e after rfl
  exact hc before e (after ++ hs') (by rw [List.append_assoc, List.cons_append])

theorem Conforms.tail (hc : Conforms h (e :: hs)) : Conforms (h ++ [e]) hs :=
  Conforms.right (show Conforms h ([e] ++ hs) from hc)

/-- Calls that agree with the queue and do what the callbacks say are those that are made. -/
theorem Script.Calls.deliver_eq {react : α → Script α} {notice : Notice}
    (hreact : ∀ o {h : List (Happening α)} {r : Roster α} {hs x}, Lists h r.members →
      Conforms h hs → (react o).Does hs x →
        ((react o).run r).happenings = hs ∧ ((react o).run r).panic = x) {queue : List α}
    (ht : Tells queue told) {r : Roster α} (hr : Lists h r.members) (hc : Conforms h calls)
    (hcalls : Calls react notice told calls x) :
    (Roster.deliver (fun o r => (react o).run r) notice queue r).told = told ∧
      (Roster.deliver (fun o r => (react o).run r) notice queue r).happenings = calls ∧
      (Roster.deliver (fun o r => (react o).run r) notice queue r).panic = x := by
  -- on the queue: the next one called is its head, whose callback leaves a list that is sound again
  induction queue generalizing h told calls x r with
  | nil =>
    obtain rfl : told = [] := List.map_eq_nil_iff.1 (List.prefix_nil.1 ht.order)
    cases hcalls
    exact ⟨rfl, rfl, rfl⟩
  | cons o rest ih =>
    cases hcalls with
    | nil => cases ht.complete (by simp)
    | @cons _ _ o' told h' calls _ hdoes hrest =>
      obtain ⟨rfl, hrests⟩ := ht.cons_inv rfl
      have hr' := hr.called o' notice
      obtain ⟨rfl, hpanic⟩ := hreact o' hr' hc.tail.left hdoes
      have hlater := (Sound.run (react o') _ r hr').roster
      obtain ⟨htold, hhappenings, hlast⟩ := ih hrests hlater hc.tail.right hrest
      simp only [Roster.deliver, Outcome.panic_after, hpanic]
      exact ⟨congrArg (_ :: ·) htold, congrArg (fun more => _ :: (_ ++ more)) hhappenings, hlast⟩
    | @panic _ _ o' h' payload hdoes =>
      obtain ⟨rfl, -⟩ := List.cons_prefix_cons.1 ht.order
      obtain ⟨rfl, hpanic⟩ := hreact o' (hr.called o' notice) hc.tail hdoes
      simp only [Roster.deliver, Outcome.after, hpanic, and_self]

theorem Script.Does.run_eq {r : Roster α} (hr : Lists h r.members) (hc : Conforms h hs)
    (hd : s.Does hs x) : (s.run r).happenings = hs ∧ (s.run r).panic = x := by
  -- on the script: `Does` leaves open what is recorded of a drain or a notification, and the list
  -- of that moment, which is the roster of the run, settles it
  induction s generalizing h r hs x with
  | done =>
    cases hd
    exact ⟨rfl, rfl⟩
  | panic payload =>
    cases hd
    exact ⟨rfl, rfl⟩
  | add o rest ih =>
    cases hd with
    | add hd =>
      obtain ⟨rfl, hx⟩ := ih (hr.add o) hc.tail hd
      exact ⟨rfl, hx⟩
  | remove o rest ih =>
    cases hd with
    | remove hd =>
      obtain ⟨rfl, hx⟩ := ih (hr.remove o) hc.tail hd
      exact ⟨rfl, hx⟩
  | drain rest ih =>
    cases hd with
    | drain hd =>
      obtain ⟨-, rfl, -⟩ := hc.head hr
      obtain ⟨rfl, hx⟩ := ih _ (r := empty) hr.drain hc.tail hd
      exact ⟨rfl, hx⟩
  | notify notice react rest ihReact ih =>
    cases hd with
    | @notify _ _ _ told calls h' _ hcalls hd =>
      obtain ⟨-, ht, -⟩ := hc.head hr
      have hr' := hr.notified notice told
      obtain ⟨htold, rfl, hpanic⟩ := hcalls.deliver_eq (fun o => ihReact o) ht hr' hc.tail.left
      have hlater := (Sound.deliver notice (fun o => Sound.run (react o)) r.members _ r hr').roster
      obtain ⟨rfl, hx⟩ := ih hlater hc.tail.right hd
      simp only [Script.run, Outcome.panic_after, hpanic, htold]
      exact ⟨rfl, hx⟩
    | @stop _ _ _ told calls payload hcalls =>
      obtain ⟨-, ht, -⟩ := hc.head hr
      obtain ⟨htold, rfl, hpanic⟩ := hcalls.deliver_eq (fun o => ihReact o) ht
        (hr.notified notice told) hc.tail
      simp only [Script.run, Outcome.after, hpanic, htold, and_self]
  | attempt part rest ihPart ih =>
    cases hd with
    | attempt hpart hrest =>
      obtain ⟨rfl, rfl⟩ := ihPart hr hc.left hpart
      obtain ⟨rfl, hx⟩ := ih _ (Sound.run part _ r hr).roster hc.right hrest
      exact ⟨rfl, hx⟩

theorem Lawful.eq_run {c : Outcome α} (hc : Lawful s c) : c = s.run empty := by
  have hconforms : Conforms [] c.happenings := fun before e after heq => by
    obtain ⟨l, l', -, hl, hl', he⟩ := hc.agrees before e after heq
    exact ⟨l, l', hl, hl', he⟩
  obtain ⟨hhappenings, hpanic⟩ := hc.does.run_eq (r := empty) .nil hconforms
  have hroster := hc.roster.2.unique (hhappenings ▸ s.lawful_run.roster.2)
  obtain ⟨happenings, ⟨members⟩, panic⟩ := c
  simp only at hhappenings hpanic hroster
  rw [hroster, ← hhappenings, ← hpanic]

/-- **What comes of a script is what the law demands, and nothing else.** -/
theorem Script.lawful_iff (s : Script α) (c : Outcome α) : Lawful s c ↔ c = s.run empty :=
  ⟨Lawful.eq_run, fun h => h ▸ s.lawful_run⟩

/-- One who is removed during a notification is still called by it, and one who is added is not. -/
example : ((Script.add 0 (.add 1 (.notify .started (fun o => if o = 0 then .remove 1 (.add 2 .done)
    else .panic (.text "stop")) .done))).run (empty : Roster ℕ)).calls =
      [(0, .started), (1, .started)] := by decide

end Change

end RunControl.Roster
