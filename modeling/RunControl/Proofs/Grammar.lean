import Mathlib.Data.List.Basic
import RunControl.Proofs.Attendance
import RunControl.Proofs.Schedule

/-!
# The grammar of notices

What the observers of a run hear is a word: `started`, one block for every pause and for every read,
and `ended` with the result of the run. `Point.rest` is what is missing of the block in which a
worker is, so that one equation holds at every place.

* `Occasion`, `occasions`, `Occasion.word`: the pauses and the reads of a run, and their blocks;
* `Point.rest`, `Point.Next.rest`: what a turn that is no call leaves of a block;
* **`Trail.announced_eq`**: the notices of a run, from where its worker is;
* **`grammar`**: the words that the observers of a run hear.
-/

namespace RunControl

variable {κ : Type}

/-! ## Pauses, reads and their blocks -/

/-- What a block of notices is about: a pause at a position, or a read and whether it has had to
wait. -/
inductive Occasion
  | pause (position : Position)
  | read (waited : Bool)
deriving DecidableEq

/-- A read has to wait. -/
def Occasion.wait : Occasion → Occasion
  | pause position => pause position
  | read _ => read true

/-- The pause that the body has decided on, or the read that it has opened, by its call. -/
def System.occasion? (s : System κ) : Call κ → Option Occasion
  | .pausePoint position _ => match (s.control.reach position).2 with
    | .pause _ => some (.pause position)
    | _ => none
  | .read _ _ => s.control.openRead.map fun _ => .read false
  | _ => none

/-- The pause or the read that the body of a run has begun. -/
def Moment.occasion? (run : RunId) (x : Moment κ) : Option Occasion :=
  match x.label with
  | .call r c => if r = run then x.state.occasion? c else none
  | _ => none

/-- The provider has returned and the read of the run is neither settled nor abandoned, nor is the
run interrupted. -/
def Moment.waits (run : RunId) (x : Moment κ) : Bool :=
  match x.label, x.state.point? run with
  | .advance r _, some (.checking _) => r = run && x.state.control.awaitsAnswer
  | _, _ => false

/-- Add what a step has to say of a run to its pauses and reads, the latest first. The read that has
to wait is the latest. -/
def Moment.record (run : RunId) (x : Moment κ) (latest : List Occasion) : List Occasion :=
  (x.occasion? run).toList ++ if x.waits run then latest.modifyHead Occasion.wait else latest

/-- The pauses and the reads of a run, in order. -/
def occasions (run : RunId) (p : List (Moment κ)) : List Occasion :=
  (p.foldr (Moment.record run) []).reverse

/-- The block of notices of a pause or of a read. -/
def Occasion.word : Occasion → List Notice
  | pause position => [.paused, .lineHighlighted position.line, .resumed]
  | read true => [.paused, .resumed]
  | read false => [.resumed]

/-- The word of a run, up to its end. -/
def word (run : RunId) (p : List (Moment κ)) : List Notice :=
  .started :: (occasions run p).flatMap Occasion.word

/-! ## What is missing of a block -/

/-- The notices of a block after this one. -/
def AfterNotice.rest : AfterNotice κ → List Notice
  | .highlight h => [.lineHighlighted h.line, .resumed]
  | .hold _ | .awaitAnswer _ => [.resumed]
  | _ => []

namespace Point

/-- The notices of the block that have not been announced, as far as they are certain. -/
def rest : Point κ → List Notice
  | queued => [.started]
  | announcing notice after => notice :: after.rest
  | telling _ _ after => after.rest
  | holding _ | held _ | requesting _ | asking _ _ | checking _ | awaiting _ | awaitingAsleep _
  | closingRead _ => [.resumed]
  | _ => []

/-- What the observers are told at the end, from where the worker is and from the results. -/
def coda (results : List RunResult) : Point κ → List Notice
  | finishing result _ => [.ended result]
  | _ => results.map .ended

/-- The worker is within a read whose answer has not been looked for. -/
def isSeeking : Point κ → Bool
  | requesting _ | asking _ _ | checking _ => true
  | _ => false

/-- The worker is in a pause: from its decision to the return to the body. -/
def isPausing : Point κ → Bool
  | announcing _ after | telling _ _ after => match after with
    | .highlight _ | .hold _ | .proceed _ => true
    | _ => false
  | holding _ | held _ => true
  | _ => false

@[simp] theorem rest_wake (q : Point κ) : q.wake.rest = q.rest := by cases q <;> rfl
@[simp] theorem coda_wake (results : List RunResult) (q : Point κ) :
    q.wake.coda results = q.coda results := by cases q <;> rfl
@[simp] theorem isSeeking_wake (q : Point κ) : q.wake.isSeeking = q.isSeeking := by
  cases q <;> rfl
@[simp] theorem isPausing_wake (q : Point κ) : q.wake.isPausing = q.isPausing := by
  cases q <;> rfl

theorem isOver_eq_false_of_isPausing {q : Point κ} (h : q.isPausing = true) :
    q.phase.isOver = false := by
  cases q with
  | announcing notice after | telling notice queue after =>
    cases after with
    | highlight | hold | proceed => rfl
    | _ => cases h
  | holding | held => rfl
  | _ => cases h

end Point

variable {setup : Setup κ} {s s' : System κ} {p : List (Moment κ)} {l : Label κ} {run : RunId}
  {q q' : Point κ} {o : ObserverId} {x : Moment κ}

theorem occasions_cons (hw : x.waits run = false) :
    occasions run (x :: p) = occasions run p ++ (x.occasion? run).toList := by
  rw [occasions, List.foldr_cons, Moment.record, hw, if_neg Bool.false_ne_true,
    List.reverse_append, occasions]
  cases x.occasion? run <;> rfl

theorem occasions_of_waits {before : List Occasion} {b : Occasion}
    (h : occasions run p = before ++ [b]) (hnone : x.occasion? run = none)
    (hw : x.waits run = true) : occasions run (x :: p) = before ++ [b.wait] := by
  have hlatest : p.foldr (Moment.record run) [] = b :: before.reverse := by
    rw [← List.reverse_inj, ← occasions, h]
    simp
  rw [occasions, List.foldr_cons, Moment.record, hw, if_pos rfl, hnone, hlatest]
  simp

/-- A turn that is no call announces what is missing first. It changes what is missing where a read
has to wait, and where the end is announced. -/
theorem Point.Next.rest (h : Next setup run l q q')
    (hcalm : ∀ payload notice queue after, l = .panicked run payload →
      q ≠ .telling notice queue after) :
    (∃ ask, q = .checking ask ∧ q' = .announcing .paused (.awaitAnswer ask)) ∨
      (∃ result watchers, q = .draining result ∧ q' = .finishing result watchers) ∨
      (q.rest = q.announces?.toList ++ q'.rest ∧
        ∀ result watchers, q' ≠ .finishing result watchers) := by
  cases h with
  | wait => exact .inl ⟨_, rfl, rfl⟩
  | drained => exact .inr (.inl ⟨_, _, rfl, rfl⟩)
  | tornNotice => exact absurd rfl (hcalm _ _ _ _ rfl)
  | skip hskips =>
    refine .inr (.inr ?_)
    cases hskips <;> exact ⟨rfl, by rintro _ _ ⟨⟩⟩
  | @told _ _ after =>
    refine .inr (.inr ?_)
    cases after with
    | leaveRead exit => cases exit <;> exact ⟨rfl, by rintro _ _ ⟨⟩⟩
    | _ => exact ⟨rfl, by rintro _ _ ⟨⟩⟩
  | @sleep _ w =>
    refine .inr (.inr ?_)
    cases w <;> exact ⟨rfl, by rintro _ _ ⟨⟩⟩
  | _ => exact .inr (.inr ⟨rfl, by rintro _ _ ⟨⟩⟩)

theorem Point.Next.isSeeking (h : Next setup run l q q') (hq : q'.isSeeking = true) :
    q.isSeeking = true ∧ ∀ ask, q ≠ .checking ask := by
  cases h with
  | skip hskips => cases hskips <;> cases hq
  | @told _ _ after =>
    cases after with
    | leaveRead exit => cases exit <;> cases hq
    | _ => cases hq
  | @sleep _ w => cases w <;> cases hq
  | request => exact ⟨hq, by rintro _ ⟨⟩⟩
  | provided => exact ⟨hq, by rintro _ ⟨⟩⟩
  | @tornNotice _ _ _ after _ htorn =>
    cases after with
    | leaveRead exit =>
      cases exit with
      | answer state => cases htorn; cases hq
      | unwind message => cases htorn
    | _ => cases htorn; cases hq
  | _ => cases hq

theorem Point.Next.isPausing (h : Next setup run l q q') (hq : q'.isPausing = true) :
    q.isPausing = true := by
  cases h with
  | skip hskips =>
    cases hskips with
    | telling => exact hq
    | _ => cases hq
  | tell => exact hq
  | @told _ _ after =>
    cases after with
    | leaveRead exit => cases exit <;> cases hq
    | highlight | hold => rfl
    | _ => cases hq
  | @sleep _ w =>
    cases w with
    | resumption => rfl
    | answer => cases hq
  | release => rfl
  | @tornNotice _ _ _ after _ htorn =>
    cases after with
    | leaveRead exit =>
      cases exit with
      | answer state => cases htorn; cases hq
      | unwind message => cases htorn
    | _ => cases htorn; cases hq
  | _ => cases hq

/-- **A call of the body begins a block or none.** -/
theorem System.occasion_of_call {state : κ} (c : Call κ)
    (hq : s.point? run = some (.body state)) : ∃ q', (s.call setup run c).point? run = some q' ∧
      q'.rest = (s.occasion? c).toList.flatMap Occasion.word ∧
      (∀ result watchers, q' ≠ .finishing result watchers) ∧
      (q'.isSeeking = true → s.occasion? c = some (.read false)) ∧
      (q'.isPausing = true → ∃ position next, c = .pausePoint position next ∧
        s.occasion? c = some (.pause position)) := by
  obtain ⟨s₁, q', hq', -, hcalled⟩ := point?_call setup hq c
  refine ⟨q', hq', ?_⟩
  cases hcalled with
  | @report position next hpass =>
    have hnone : s.occasion? (.pausePoint position next) = none := by
      cases hi : s.control.interrupted <;> simp_all [occasion?, Control.reach]
    rw [hnone]
    exact ⟨rfl, by rintro _ _ ⟨⟩, by rintro ⟨⟩, by rintro ⟨⟩⟩
  | pause hi hc =>
    simp [occasion?, Control.reach, hi, hc, Point.rest, AfterNotice.rest, Point.isSeeking,
      Occasion.word]
  | openRead ho =>
    simp only [occasion?, ho]
    exact ⟨rfl, by rintro _ _ ⟨⟩, fun _ => rfl, by rintro ⟨⟩⟩
  | refuseRead ho =>
    simp only [occasion?, ho]
    exact ⟨rfl, by rintro _ _ ⟨⟩, by rintro ⟨⟩, by rintro ⟨⟩⟩
  | _ => exact ⟨rfl, by rintro _ _ ⟨⟩, by rintro ⟨⟩, by rintro ⟨⟩⟩

theorem Moment.occasion?_call (c : Call κ) :
    (Moment.mk s (.call run c)).occasion? run = s.occasion? c := if_pos rfl

theorem Moment.occasion?_of_not_call (hl : ∀ c, l ≠ .call run c) :
    (Moment.mk s l).occasion? run = none := by
  cases l with
  | call r c =>
    have hr : r ≠ run := fun he => hl c (he ▸ rfl)
    exact if_neg hr
  | _ => rfl

theorem Moment.occasion?_of_other (hl : l.worker? ≠ some run) :
    (Moment.mk s l).occasion? run = none :=
  Moment.occasion?_of_not_call (by rintro _ rfl; exact hl rfl)

theorem Moment.waits_of_not_advance (hl : ∀ elapsed, l ≠ .advance run elapsed) :
    (Moment.mk s l).waits run = false := by
  cases l with
  | advance r elapsed =>
    have hr : r ≠ run := fun he => hl elapsed (he ▸ rfl)
    simp only [waits]
    split <;> simp_all
  | _ => rfl

theorem Moment.waits_of_other (hl : l.worker? ≠ some run) : (Moment.mk s l).waits run = false :=
  Moment.waits_of_not_advance (by rintro _ rfl; exact hl rfl)

/-- A worker has to wait for an answer only where its provider has returned. -/
theorem Moment.waits_of_point (hq : s.point? run = some q) (hne : ∀ ask, q ≠ .checking ask) :
    (Moment.mk s l).waits run = false := by
  unfold waits
  split
  · rename_i ask _ hpoint
    exact absurd (Option.some.inj (hq.symm.trans hpoint)) (hne ask)
  · rfl

/-- **Whether a read has to wait is decided when its provider has returned.** -/
theorem System.waits_of_step {ask : Ask κ} (hl : l.worker? = some run)
    (hq : s.point? run = some (.checking ask)) (h : s.step setup l = some s') :
    (s'.point? run = some (.announcing .paused (.awaitAnswer ask)) ∧
        (Moment.mk s l).waits run = true) ∨
      (∃ exit, s'.point? run = some (.closingRead exit)) ∧ (Moment.mk s l).waits run = false := by
  obtain ⟨⟨args, q⟩, hq', hturn⟩ := turn_of_step hl h
  obtain rfl := Option.some.inj (hq.symm.trans hq')
  cases l with
  | advance r elapsed =>
    obtain rfl := Option.some.inj hl
    simp only [turn, advance] at hturn
    split_ifs at hturn with hawaits <;> obtain rfl := Option.some.inj hturn
    · exact .inl ⟨point?_goto hq, by simp [Moment.waits, hq, hawaits]⟩
    · exact .inr ⟨⟨_, point?_goto (p := .checking ask) hq⟩, by simp [Moment.waits, hq, hawaits]⟩
  | act t a | complete t | wake r => cases hl
  | _ => cases hturn

/-- **A read whose answer has not been looked for is the last block, and has not had to wait.** -/
theorem Trail.occasions_of_isSeeking {directory : String}
    (hp : Trail setup (System.initial setup directory) p s)
    (hcalm : p.any (Moment.tearsNotice run) = false) (hq : s.point? run = some q)
    (hseeking : q.isSeeking = true) : ∃ before, occasions run p = before ++ [.read false] := by
  induction hp generalizing q with
  | nil => simp [System.point?, System.initial] at hq
  | @cons p s s' l hp hs ih =>
    rw [List.any_cons, Bool.or_eq_false_iff] at hcalm
    by_cases hl : l.worker? = some run
    · by_cases hcall : ∃ c, l = .call run c
      · obtain ⟨c, rfl⟩ := hcall
        obtain ⟨state, hbody, rfl⟩ := System.step_call hs
        obtain ⟨q', hq', -, -, hseeks, -⟩ :
            ∃ q', (s.call setup run c).point? run = some q' ∧ _ := System.occasion_of_call c hbody
        obtain rfl := Option.some.inj (hq'.symm.trans hq)
        refine ⟨occasions run p, ?_⟩
        rw [occasions_cons (Moment.waits_of_not_advance (by simp)), Moment.occasion?_call,
          hseeks hseeking]
        rfl
      · have hc : ∀ c, l ≠ .call run c := fun c he => hcall ⟨c, he⟩
        obtain ⟨q₀, q₁, hq₀, hq₁, hnext, -⟩ := System.next_of_calm hl hc hcalm.1 hs
        obtain rfl := Option.some.inj (hq₁.symm.trans hq)
        obtain ⟨hseeks, hne⟩ := hnext.isSeeking hseeking
        rw [occasions_cons (Moment.waits_of_point hq₀ hne), Moment.occasion?_of_not_call hc,
          Option.toList_none, List.append_nil]
        exact ih hcalm.2 hq₀ hseeks
    · rw [occasions_cons (Moment.waits_of_other hl), Moment.occasion?_of_other hl,
        Option.toList_none, List.append_nil]
      obtain he | ⟨-, -, hqueued⟩ | ⟨he, -⟩ := (System.stepped_of_step hs).point?_cases hl
      · exact ih hcalm.2 (he ▸ hq) hseeking
      · obtain rfl := Option.some.inj (hqueued.symm.trans hq)
        cases hseeking
      · rw [he] at hq
        obtain ⟨q₀, hq₀, rfl⟩ := Option.map_eq_some_iff.1 hq
        exact ih hcalm.2 hq₀ (Point.isSeeking_wake q₀ ▸ hseeking)

/-! ## The notices of a run -/

theorem word_cons (hw : x.waits run = false) :
    word run (x :: p) = word run p ++ (x.occasion? run).toList.flatMap Occasion.word := by
  rw [word, word, occasions_cons hw, List.flatMap_append, List.cons_append]

theorem word_of_waits {before : List Occasion} (h : occasions run p = before ++ [.read false])
    (hnone : x.occasion? run = none) (hw : x.waits run = true) :
    ∃ before, word run p = before ++ [.resumed] ∧
      word run (x :: p) = before ++ [.paused, .resumed] := by
  refine ⟨.started :: before.flatMap Occasion.word, ?_, ?_⟩
  · rw [word, h, List.flatMap_append, List.flatMap_singleton, List.cons_append]
    rfl
  · rw [word, occasions_of_waits h hnone hw, List.flatMap_append, List.flatMap_singleton,
      List.cons_append]
    rfl

theorem Point.eq_finishing_of_phase {result : RunResult} (h : q.phase = .finishing result) :
    ∃ watchers, q = .finishing result watchers := by
  cases q with
  | finishing result watchers =>
    cases h
    exact ⟨watchers, rfl⟩
  | announcing notice after | telling notice queue after =>
    cases after with
    | leaveRead exit => cases exit <;> cases h
    | _ => cases h
  | _ => cases h

theorem Point.coda_eq (h : ∀ result watchers, q ≠ .finishing result watchers)
    (results : List RunResult) : q.coda results = results.map .ended := by
  cases q with
  | finishing result watchers => exact absurd rfl (h result watchers)
  | _ => rfl

theorem Trail.coda_eq_nil {directory : String}
    (hp : Trail setup (System.initial setup directory) p s) (hq : s.point? run = some q)
    (hover : q.phase.isOver = false) (hne : ∀ result watchers, q ≠ .finishing result watchers) :
    q.coda (results run p) = [] := by
  have hlen := (@Trail.results_cases _ _ _ _ run _ hp).1
  rw [System.phase?, hq, Option.map_some, Option.any_some, hover] at hlen
  rw [Point.coda_eq hne, List.eq_nil_of_length_eq_zero hlen, List.map_nil]

/-- Apart from the taking of the last list, what is told at the end stays the same. -/
theorem Trail.coda_of_step {directory : String}
    (hp : Trail setup (System.initial setup directory) p s) (hl : l.worker? = some run)
    (hq : s.point? run = some q) (hq' : s'.point? run = some q') (hs : s.step setup l = some s')
    (hne : ∀ result watchers, q' ≠ .finishing result watchers) :
    q'.coda (results run (⟨s, l⟩ :: p)) = q.coda (results run p) := by
  obtain ⟨⟨args, q₀⟩, q₁, ht⟩ := System.turned_of_step hl hs
  obtain rfl := Option.some.inj (hq.symm.trans ht.point?.1)
  obtain rfl := Option.some.inj (hq'.symm.trans ht.point?.2)
  rw [Point.coda_eq hne]
  obtain ⟨result, elapsed, rfl, hfinishing, hending⟩ | ⟨hnot, -⟩ := ht.turn.result_cases
  · -- the run ends with the result of which the observers are to be told
    obtain ⟨watchers, rfl⟩ := Point.eq_finishing_of_phase hfinishing
    have hphase : s'.phase? run = some (.ending result) := by
      rw [System.phase?, hq', Option.map_some, hending]
    rw [(hp.cons hs).results_cases.2 result hphase]
    rfl
  · have hnone : (Moment.mk s l).result? run = none := by
      unfold Moment.result?
      split
      · rename_i result _ hphase
        exact absurd (Option.some.inj (ht.phase?.1.symm.trans hphase)) (hnot result)
      · rfl
    have hq₀ : ∀ result watchers, q ≠ .finishing result watchers := by
      rintro result watchers rfl
      exact hnot result rfl
    rw [Point.coda_eq hq₀, results, List.filterMap_cons_none hnone, results]

theorem occasions_of_unseen (h : ∀ x ∈ p, x.label.worker? ≠ some run) : occasions run p = [] := by
  induction p with
  | nil => rfl
  | cons x p ih =>
    have hx := h x List.mem_cons_self
    rw [occasions_cons (Moment.waits_of_other hx), Moment.occasion?_of_other hx,
      ih fun y hy => h y (List.mem_cons_of_mem x hy)]
    rfl

theorem Trail.word_of_unseen {directory : String}
    (hp : Trail setup (System.initial setup directory) p s) (hq : s.point? run = none) :
    word run p = [.started] ∧ results run p = [] := by
  have hunseen := hp.worker?_of_unseen hq
  refine ⟨by rw [word, occasions_of_unseen hunseen]; rfl, ?_⟩
  exact List.filterMap_eq_nil_iff.2 fun x hx => Moment.result?_of_other (hunseen x hx)

theorem Trail.announced_of_call {directory : String} {c : Call κ} {state : κ}
    (hp : Trail setup (System.initial setup directory) p s)
    (hs : s.step setup (.call run c) = some s') (hbody : s.point? run = some (.body state))
    (hq : s'.point? run = some q)
    (ih : announced run p ++ (Point.body state).rest =
      word run p ++ (Point.body state).coda (results run p)) :
    announced run (⟨s, .call run c⟩ :: p) ++ q.rest =
      word run (⟨s, .call run c⟩ :: p) ++ q.coda (results run (⟨s, .call run c⟩ :: p)) := by
  obtain ⟨_, -, rfl⟩ := System.step_call hs
  obtain ⟨q', hq', hrest, hne, -⟩ : ∃ q', (s.call setup run c).point? run = some q' ∧ _ :=
    System.occasion_of_call c hbody
  obtain rfl := Option.some.inj (hq'.symm.trans hq)
  have hnil := hp.coda_eq_nil hbody rfl (by rintro _ _ ⟨⟩)
  have hbefore : announced run p = word run p := by
    simpa only [hnil, Point.rest, List.append_nil] using ih
  rw [announced_cons, Moment.at?_of_worker rfl hbody, hp.coda_of_step rfl hbody hq hs hne, hnil,
    word_cons (Moment.waits_of_not_advance (by simp)), Moment.occasion?_call, hrest, hbefore]
  simp [Point.announces?]

theorem Trail.announced_of_next {directory : String}
    (hp : Trail setup (System.initial setup directory) p s)
    (hcalm : p.any (Moment.tearsNotice run) = false)
    (htear : (Moment.mk s l).tearsNotice run = false) (hl : l.worker? = some run)
    (hc : ∀ c, l ≠ .call run c) (hs : s.step setup l = some s') (hq : s.point? run = some q)
    (hq' : s'.point? run = some q')
    (ih : announced run p ++ q.rest = word run p ++ q.coda (results run p)) :
    announced run (⟨s, l⟩ :: p) ++ q'.rest =
      word run (⟨s, l⟩ :: p) ++ q'.coda (results run (⟨s, l⟩ :: p)) := by
  obtain ⟨q₀, q₁, hq₀, hq₁, hnext, htelling⟩ := System.next_of_calm hl hc htear hs
  obtain rfl := Option.some.inj (hq.symm.trans hq₀)
  obtain rfl := Option.some.inj (hq'.symm.trans hq₁)
  have hoccasion := Moment.occasion?_of_not_call (s := s) hc
  have hkept (hw : (Moment.mk s l).waits run = false) :
      word run (⟨s, l⟩ :: p) = word run p := by
    rw [word_cons hw, hoccasion, Option.toList_none, List.flatMap_nil, List.append_nil]
  rw [announced_cons, Moment.at?_of_worker hl hq]
  obtain ⟨ask, rfl, rfl⟩ | ⟨result, watchers, rfl, rfl⟩ | ⟨hrest, hne⟩ := hnext.rest htelling
  · -- the read has to wait
    obtain ⟨-, hw⟩ | ⟨⟨exit, hexit⟩, -⟩ := System.waits_of_step hl hq hs
    · obtain ⟨_, hlatest⟩ := hp.occasions_of_isSeeking hcalm hq rfl
      obtain ⟨before, hbefore, hafter⟩ := word_of_waits hlatest hoccasion hw
      have hnil := hp.coda_eq_nil hq rfl (by rintro _ _ ⟨⟩)
      rw [hnil, hbefore, List.append_nil] at ih
      rw [hp.coda_of_step hl hq hq' hs (by rintro _ _ ⟨⟩), hnil, hafter,
        List.append_cancel_right ih]
      simp [Point.announces?, Point.rest, AfterNotice.rest]
    · cases hq'.symm.trans hexit
  · -- the end is announced
    have hnil := hp.coda_eq_nil hq rfl (by rintro _ _ ⟨⟩)
    have hbefore : announced run p = word run p := by
      simpa only [hnil, Point.rest, List.append_nil] using ih
    rw [hkept (Moment.waits_of_point hq (by rintro _ ⟨⟩)), hbefore]
    exact List.append_nil _
  · have hw : (Moment.mk s l).waits run = false := by
      by_cases hchecking : ∃ ask, q = .checking ask
      · obtain ⟨ask, rfl⟩ := hchecking
        obtain ⟨hwaits, -⟩ | ⟨-, hw⟩ := System.waits_of_step hl hq hs
        · obtain rfl := Option.some.inj (hq'.symm.trans hwaits)
          cases hrest
        · exact hw
      · exact Moment.waits_of_point hq fun ask he => hchecking ⟨ask, he⟩
    rw [hkept hw, hp.coda_of_step hl hq hq' hs hne, List.append_assoc, ← hrest, ih]

/-- **The notices of a run are `started`, a block for every pause and every read, and `ended` with
the result, as far as its worker has come.** -/
theorem Trail.announced_eq {directory : String}
    (hp : Trail setup (System.initial setup directory) p s)
    (hcalm : p.any (Moment.tearsNotice run) = false) (hq : s.point? run = some q) :
    announced run p ++ q.rest = word run p ++ q.coda (results run p) := by
  -- on the trail: a call of the body opens a block, the other turns of the worker work it off, and
  -- what the others do leaves it as it is
  induction hp generalizing q with
  | nil => simp [System.point?, System.initial] at hq
  | @cons p s s' l hp hs ih =>
    rw [List.any_cons, Bool.or_eq_false_iff] at hcalm
    by_cases hl : l.worker? = some run
    · obtain ⟨⟨args, q₀⟩, hq₀, -⟩ := System.turn_of_step hl hs
      have hbefore := ih hcalm.2 hq₀
      by_cases hcall : ∃ c, l = .call run c
      · obtain ⟨c, rfl⟩ := hcall
        obtain ⟨state, hbody, -⟩ := System.step_call hs
        obtain rfl := Option.some.inj (hbody.symm.trans hq₀)
        exact hp.announced_of_call hs hbody hq hbefore
      · exact hp.announced_of_next hcalm.2 hcalm.1 hl (fun c he => hcall ⟨c, he⟩) hs hq₀ hq hbefore
    · have hresults : results run (⟨s, l⟩ :: p) = results run p := by
        rw [results, List.filterMap_cons_none (Moment.result?_of_other hl), results]
      rw [announced_cons, Moment.at?_of_other hl, Option.toList_none, List.append_nil, hresults,
        word_cons (Moment.waits_of_other hl), Moment.occasion?_of_other hl, Option.toList_none,
        List.flatMap_nil, List.append_nil]
      obtain he | ⟨-, hnone, hqueued⟩ | ⟨he, -⟩ := (System.stepped_of_step hs).point?_cases hl
      · exact ih hcalm.2 (he ▸ hq)
      · obtain rfl := Option.some.inj (hqueued.symm.trans hq)
        obtain ⟨-, hannounced⟩ := hp.heard_of_unseen (o := "") hnone
        obtain ⟨hword, hnil⟩ := hp.word_of_unseen hnone
        rw [hannounced, hword, hnil]
        rfl
      · rw [he] at hq
        obtain ⟨q₀, hq₀, rfl⟩ := Option.map_eq_some_iff.1 hq
        rw [Point.rest_wake, Point.coda_wake]
        exact ih hcalm.2 hq₀

/-! ## The position of a pause -/

/-- **While a run is in a pause, its last block is of that pause, at the last position.** -/
theorem Trail.occasions_of_isPausing {directory : String}
    (hp : Trail setup (System.initial setup directory) p s)
    (hcalm : p.any (Moment.tearsNotice run) = false) (hq : s.point? run = some q)
    (hpausing : q.isPausing = true) :
    ∃ before, occasions run p = before ++ [.pause (lastReported run p)] := by
  -- a pause begins with a pause point, the last position, and no block follows while it lasts
  induction hp generalizing q with
  | nil => simp [System.point?, System.initial] at hq
  | @cons p s s' l hp hs ih =>
    rw [List.any_cons, Bool.or_eq_false_iff] at hcalm
    rw [lastReported_cons]
    by_cases hl : l.worker? = some run
    · by_cases hcall : ∃ c, l = .call run c
      · obtain ⟨c, rfl⟩ := hcall
        obtain ⟨state, hbody, rfl⟩ := System.step_call hs
        obtain ⟨q', hq', -, -, -, hpause⟩ :
            ∃ q', (s.call setup run c).point? run = some q' ∧ _ := System.occasion_of_call c hbody
        obtain rfl := Option.some.inj (hq'.symm.trans hq)
        obtain ⟨position, next, rfl, hoccasion⟩ := hpause hpausing
        refine ⟨occasions run p, ?_⟩
        rw [occasions_cons (Moment.waits_of_not_advance (by simp)), Moment.occasion?_call,
          hoccasion]
        simp [Moment.report?, Label.worker?, Label.report?]
      · have hc : ∀ c, l ≠ .call run c := fun c he => hcall ⟨c, he⟩
        obtain ⟨q₀, q₁, hq₀, hq₁, hnext, -⟩ := System.next_of_calm hl hc hcalm.1 hs
        obtain rfl := Option.some.inj (hq₁.symm.trans hq)
        have hreport : (Moment.mk s l).report? run = none := by
          rw [Moment.report?, if_pos hl]
          cases l with
          | call r c => exact absurd (Option.some.inj hl ▸ rfl) (hc c)
          | _ => rfl
        have hpause := hnext.isPausing hpausing
        have hw : (Moment.mk s l).waits run = false :=
          Moment.waits_of_point hq₀ (by rintro ask rfl; cases hpause)
        rw [occasions_cons hw, Moment.occasion?_of_not_call hc, hreport, Option.toList_none,
          List.append_nil, Option.getD_none]
        exact ih hcalm.2 hq₀ hpause
    · rw [occasions_cons (Moment.waits_of_other hl), Moment.occasion?_of_other hl, Moment.report?,
        if_neg hl, Option.toList_none, List.append_nil, Option.getD_none]
      obtain he | ⟨-, -, hqueued⟩ | ⟨he, -⟩ := (System.stepped_of_step hs).point?_cases hl
      · exact ih hcalm.2 (he ▸ hq) hpausing
      · obtain rfl := Option.some.inj (hqueued.symm.trans hq)
        cases hpausing
      · rw [he] at hq
        obtain ⟨q₀, hq₀, rfl⟩ := Option.map_eq_some_iff.1 hq
        exact ih hcalm.2 hq₀ (Point.isPausing_wake q₀ ▸ hpausing)

/-! ## What the observers hear -/

/-- What the observers of the runs of a program hear, whatever its body and other threads do. Only a
panic of an observer in the run itself is left out. An observer who attends a run has heard, or is
about to, what the run has announced: its word up to what is missing of the block in which it is
(`underway`), and in the end its blocks and its result once (`whole`). From `paused` to `resumed`
the last position of the run is that of its last block (`placed`). A run that is served comes to be
done (`ends`). -/
structure Grammar (setup : Setup κ) : Prop where
  underway : ∀ directory p s run q, Trail setup (System.initial setup directory) p s →
    p.any (Moment.tearsNotice run) = false → s.point? run = some q →
      announced run p ++ q.rest = word run p ++ q.coda (results run p) ∧
        ∀ o, attends run o p = true → heard run o p ++ q.untold o = announced run p
  whole : ∀ directory p s run, Trail setup (System.initial setup directory) p s →
    p.any (Moment.tearsNotice run) = false → s.point? run = some .done →
      ∃ result, results run p = [result] ∧ ∀ o, attends run o p = true →
        heard run o p = word run p ++ [.ended result]
  placed : ∀ directory p s run q, Trail setup (System.initial setup directory) p s →
    p.any (Moment.tearsNotice run) = false → s.point? run = some q → q.isPausing = true →
      ∃ before, occasions run p = before ++ [.pause s.control.position]
  ends : ∀ (e : Schedule setup) run n, (e.moment n).starts = true →
    (e.moments n).countP Moment.starts = run → Served e run →
      ∃ k, n < k ∧ (e.state k).point? run = some .done

/-- **The grammar of the notices of a run.** -/
theorem grammar (setup : Setup κ) : Grammar setup where
  underway _ _ _ _ _ hp hcalm hq := ⟨hp.announced_eq hcalm hq, fun _ ha => hp.heard_eq hcalm ha hq⟩
  whole _ p s run hp hcalm hq := by
    have hphase : s.phase? run = some .done := by rw [System.phase?, hq]; rfl
    have hone : (results run p).length = 1 := by rw [hp.results_cases.1, hphase]; rfl
    obtain ⟨result, hresult⟩ := List.length_eq_one_iff.1 hone
    refine ⟨result, hresult, fun o ha => ?_⟩
    have hheard : heard run o p ++ [] = announced run p := hp.heard_eq hcalm ha hq
    have hword : announced run p ++ [] = word run p ++ (results run p).map .ended :=
      hp.announced_eq hcalm hq
    rw [← List.append_nil (heard run o p), hheard, ← List.append_nil (announced run p), hword,
      hresult, List.map_singleton]
  placed _ _ _ _ _ hp hcalm hq hpausing := by
    rw [hp.position_eq (by rw [System.phase?, hq, Option.map_some])
      (Point.isOver_eq_false_of_isPausing hpausing)]
    exact hp.occasions_of_isPausing hcalm hq hpausing
  ends _ _ _ hx hrun hs := Schedule.exists_done hs hx hrun

/-! ## A run with a pause and two reads -/

/-- Two observers are told, and the worker goes on. -/
def tellBoth : List (Label Unit) := [.advance 0 0, .returned 0, .returned 0, .advance 0 0]

/-- Start a run with two observers and go to the body. -/
def enterBoth : List (Label Unit) :=
  [.act (.controller 0) (.addObserver "a"), .act (.controller 0) (.addObserver "b"),
    .act (.controller 0) (.start [] .stepOver), .complete (.controller 0), .advance 0 0]

/-- A pause that the first observer resumes while it is told of it. -/
def resumedAtOnce : List (Label Unit) :=
  [.call 0 (.pausePoint ⟨2, 1⟩ fun _ => ()), .advance 0 0, .act (.worker 0) (.resume .stopped),
    .complete (.worker 0), .returned 0, .returned 0, .advance 0 0]

/-- A read that has to wait. -/
def waitingRead : List (Label Unit) :=
  [.call 0 (.read .integer fun _ => ()), .advance 0 0, .returned 0, .advance 0 0]

/-- An answer comes while the worker sleeps. -/
def lateAnswer : List (Label Unit) :=
  [.advance 0 0, .act (.controller 0) (.settle 1 (some (.integer 5))), .complete (.controller 0),
    .advance 0 0, .advance 0 0]

/-- A read that the provider refuses. -/
def refusedRead : List (Label Unit) :=
  [.call 0 (.read .integer fun _ => ()), .advance 0 0, .act (.worker 0) (.settle 2 none),
    .complete (.worker 0), .returned 0, .advance 0 0, .advance 0 0]

/-- The body returns, and the two observers are told of the end. -/
def leaveBoth : List (Label Unit) :=
  [.call 0 (.finish (.ok ())), .advance 0 0, .advance 0 0, .advance 0 0, .advance 0 0, .returned 0,
    .returned 0, .advance 0 0]

/-- A run with a pause and two reads. -/
def threeBlocks : List (Label Unit) :=
  enterBoth ++ tellBoth ++ [.advance 0 0] ++ resumedAtOnce ++ tellBoth ++ [.advance 0 0] ++
    tellBoth ++ waitingRead ++ tellBoth ++ lateAnswer ++ tellBoth ++ refusedRead ++ tellBoth ++
    leaveBoth

theorem grammar_threeBlocks :
    let setup := Setup.bare ()
    let s₀ := System.initial setup ""
    let p := s₀.moments setup threeBlocks
    ∃ s, s₀.steps setup threeBlocks = some s ∧ s.point? 0 = some .done ∧
      p.any (Moment.tearsNotice 0) = false ∧ attends 0 "a" p = true ∧ attends 0 "b" p = true ∧
      occasions 0 p = [.pause ⟨2, 1⟩, .read true, .read false] ∧
      word 0 p = [.started, .paused, .lineHighlighted 2, .resumed, .paused, .resumed, .resumed] ∧
      ∃ result, results 0 p = [result] ∧ ∀ o, attends 0 o p = true →
        heard 0 o p = word 0 p ++ [.ended result] :=
  ⟨_, rfl, rfl, by decide +kernel, by decide +kernel, by decide +kernel, by decide +kernel,
    by decide +kernel,
    (grammar (Setup.bare ())).whole _ _ _ _ (trail_of_steps rfl) (by decide +kernel) rfl⟩

end RunControl
