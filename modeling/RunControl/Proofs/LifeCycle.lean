import RunControl.Proofs.Chapter
import RunControl.Proofs.Inspection
import RunControl.Proofs.Schedule

/-!
# The life cycle of a run

What a run does, in which order and how often, does not depend on whether libraries fail, on how the
body stops, and on what other threads do meanwhile.

* `Opening`, `Closing`, `Life`: the milestones of a run up to the end of its body, of its libraries,
  and of the whole run;
* `Chapter.Course`, **`Chapter.Course.follows`**: the milestones that a run has passed where it is,
  and that every step keeps it so;
* **`Trail.course`**: this holds of every run in whose start no observer panics;
* **`System.Untouched.of_step`**: the supervisor resets the snapshot where the body begins, and
  nowhere else;
* **`lifeCycle`**: the life of every run.
-/

namespace RunControl

variable {κ : Type} {setup : Setup κ} {s s' : System κ} {p : List (Moment κ)} {l : Label κ}
  {run : RunId} {libraries left : List String} {last last' : Position} {word : List Milestone}
  {outcome : Except Fault Unit} {result : RunResult}

/-! ## Milestones in order -/

/-- All of these libraries are initialized. -/
def initializations (libraries : List String) : List Milestone :=
  libraries.map fun library => .initialized library .returned

/-- The library that is finalized. -/
def Milestone.finalizes? : Milestone → Option String
  | finalized library _ => some library
  | _ => none

/-- What a run with the last position does until its body has stopped with the outcome, or until a
library refuses to start. -/
inductive Opening (libraries : List String) :
    Position → List Milestone → Except Fault Unit → Prop
  | ran {last : Position} {outcome : Except Fault Unit} :
    Opening libraries last
      (.told .started :: initializations libraries ++ [.begun, .stopped outcome]) outcome
  | refused {before after : List String} {library : String} {exit : LibraryExit}
    {error : LibraryError} :
    libraries = before ++ library :: after → exit.error? library = some error →
      Opening libraries .unknown
        (.told .started :: initializations before ++ [.initialized library exit])
        (.error (.library error))

/-- What a run does until only these libraries are left to be finalized. -/
def Closing (libraries : List String) (last : Position) (left : List String)
    (word : List Milestone) (outcome : Except Fault Unit) : Prop :=
  ∃ opening closing before, Opening libraries last opening outcome ∧ libraries = before ++ left ∧
    closing.map Milestone.finalizes? = before.map some ∧ word = opening ++ closing

/-- The milestones of a whole run, with its last position, the outcome of its initialization and
body, and its result. All libraries are finalized, each once and in order, whatever was before and
whether they fail at that. A library that refuses to start is named by the diagnostic. -/
structure Life (setup : Setup κ) (last : Position) (word : List Milestone)
    (outcome : Except Fault Unit) (result : RunResult) : Prop where
  order : ∃ opening closing, Opening setup.libraries last opening outcome ∧
    closing.map Milestone.finalizes? = setup.libraries.map some ∧
    word = opening ++ closing ++ [.classified outcome, .told (.ended result)]
  judged : ∃ elapsed, result = .judge setup.translators setup.info last elapsed outcome
  refused : ∀ library exit error, .initialized library exit ∈ word →
    exit.error? library = some error →
      ∃ elapsed, result = .failed (.unplaced .library error.display) elapsed

theorem eq_returned_of_mem {library : String} {exit : LibraryExit}
    (h : .initialized library exit ∈ initializations libraries) : exit = .returned := by
  obtain ⟨_, -, he⟩ := List.mem_map.1 h
  exact (Milestone.initialized.inj he).2.symm

/-- A run in which a library refuses to start fails with its error, before any position is
reported. -/
theorem Opening.of_refused {library : String} {exit : LibraryExit} {error : LibraryError}
    (h : Opening libraries last word outcome) (hmem : .initialized library exit ∈ word)
    (he : exit.error? library = some error) :
    last = .unknown ∧ outcome = .error (.library error) := by
  have hno : ∀ before, .initialized library exit ∉ initializations before := fun before hin => by
    rw [eq_returned_of_mem hin] at he
    cases he
  cases h with
  | ran => simp [hno] at hmem
  | refused hsplit herror =>
    obtain ⟨rfl, rfl⟩ : library = _ ∧ exit = _ := by simpa [hno] using hmem
    obtain rfl := Option.some.inj (herror.symm.trans he)
    exact ⟨rfl, rfl⟩

theorem not_mem_of_finalizes {closing : List Milestone} {library : String} {exit : LibraryExit}
    (h : closing.map Milestone.finalizes? = libraries.map some) :
    .initialized library exit ∉ closing := fun hmem => by
  have hnone : none ∈ closing.map Milestone.finalizes? := List.mem_map.2 ⟨_, hmem, rfl⟩
  rw [h] at hnone
  simp at hnone

/-- A run that has finalized all libraries is classified, and the observers are told. -/
theorem Closing.life {elapsed : ℕ} (h : Closing setup.libraries last [] word outcome) :
    let result := RunResult.judge setup.translators setup.info last elapsed outcome
    Life setup last (word ++ [.classified outcome, .told (.ended result)]) outcome result := by
  obtain ⟨opening, closing, before, hopening, hsplit, hclosing, rfl⟩ := h
  rw [List.append_nil] at hsplit
  subst hsplit
  refine
    { order := ⟨opening, closing, hopening, hclosing, rfl⟩
      judged := ⟨elapsed, rfl⟩
      refused := fun library exit error hmem he => ?_ }
  have hmem' : .initialized library exit ∈ opening := by
    simpa [not_mem_of_finalizes hclosing] using hmem
  obtain ⟨rfl, rfl⟩ := hopening.of_refused hmem' he
  exact ⟨elapsed, rfl⟩

/-! ## The course of a run -/

/-- The milestones that a run has passed in a chapter, with its last position. -/
def Chapter.Course (setup : Setup κ) (last : Position) (word : List Milestone) : Chapter → Prop
  | starting notice => notice = .started ∧ last = .unknown ∧ word = []
  | initializing left => last = .unknown ∧
    ∃ before, setup.libraries = before ++ left ∧ word = .told .started :: initializations before
  | body => word = .told .started :: initializations setup.libraries ++ [.begun]
  | finalizing left outcome => Closing setup.libraries last left word outcome
  | classifying outcome => Closing setup.libraries last [] word outcome
  | recovering message => ∃ closed outcome elapsed payload,
    Closing setup.libraries last [] closed outcome ∧ word = closed ++ [.classified outcome] ∧
      RunResult.ofOutcome setup.translators setup.info last elapsed outcome = .error payload ∧
      message = payload.message
  | concluded result => ∃ closed outcome elapsed,
    Closing setup.libraries last [] closed outcome ∧ word = closed ++ [.classified outcome] ∧
      result = .judge setup.translators setup.info last elapsed outcome
  | done => ∃ outcome result, Life setup last word outcome result

/-- **Every step leads a run on in its course.** -/
theorem Chapter.Course.follows {c c' : Chapter} {m : Option Milestone}
    (h : c.Course setup last word) (hf : Follows setup last c m last' c') :
    c'.Course setup last' (word ++ m.toList) := by
  -- `before` are the libraries that have had their turn; each one moves over from those still left
  cases hf with
  | stay => rwa [Option.toList_none, List.append_nil]
  | report => rwa [Option.toList_none, List.append_nil]
  | start =>
    obtain ⟨rfl, hlast, rfl⟩ := h
    exact ⟨hlast, [], rfl, rfl⟩
  | @prepare library left =>
    obtain ⟨hlast, before, hsplit, rfl⟩ := h
    exact ⟨hlast, before ++ [library], by simp [hsplit], by simp [initializations]⟩
  | refuse he =>
    obtain ⟨rfl, before, hsplit, rfl⟩ := h
    exact ⟨_, [], [], .refused hsplit he, rfl, rfl, by simp⟩
  | begin =>
    obtain ⟨-, before, hsplit, rfl⟩ := h
    rw [List.append_nil] at hsplit
    rw [← hsplit]
    rfl
  | stop => exact ⟨_, [], [], .ran, rfl, rfl, by simp [show word = _ from h]⟩
  | @finalize library left exit outcome =>
    obtain ⟨opening, closing, before, hopening, hsplit, hclosing, rfl⟩ := h
    refine ⟨opening, closing ++ [.finalized library exit], before ++ [library], hopening, ?_, ?_,
      ?_⟩
    · simp [hsplit]
    · simp [hclosing, Milestone.finalizes?]
    · simp
  | close => rwa [Option.toList_none, List.append_nil]
  | classify hresult => exact ⟨word, _, _, h, rfl, (RunResult.judge_of_ok hresult).symm⟩
  | misjudge hpayload => exact ⟨word, _, _, _, h, rfl, hpayload, rfl⟩
  | recover =>
    obtain ⟨closed, outcome, elapsed, payload, hclosed, rfl, hpayload, rfl⟩ := h
    refine ⟨closed, outcome, _, hclosed, by simp, (RunResult.judge_of_error hpayload _).symm⟩
  | finish =>
    obtain ⟨closed, outcome, elapsed, hclosed, rfl, rfl⟩ := h
    refine ⟨outcome, .judge setup.translators setup.info last elapsed outcome, ?_⟩
    rw [List.append_assoc]
    exact hclosed.life

/-- **The milestones of a run are those of its course.** -/
theorem Trail.course {directory : String} (hp : Trail setup (System.initial setup directory) p s)
    (hstart : p.any (Moment.startPanics run) = false) :
    (s.point? run = none → milestones run p = []) ∧ ∀ q, s.point? run = some q →
      q.chapter.Course setup (lastReported run p) (milestones run p) := by
  -- by steps: before the worker exists there are no milestones, and after that `follows` carries on
  induction hp with
  | nil => exact ⟨fun _ => rfl, fun q hq => by simp [System.point?, System.initial] at hq⟩
  | @cons p s s' l hp hs ih =>
    rw [List.any_cons, Bool.or_eq_false_iff] at hstart
    obtain ⟨hnone, hsome⟩ := ih hstart.2
    rw [milestones_cons, lastReported_cons]
    cases hq : s.point? run with
    | some q =>
      have hlast : q.phase.isOver = false → s.control.position = lastReported run p :=
        hp.position_eq (by rw [System.phase?, hq, Option.map_some])
      obtain hpanics | ⟨q', hq', hfollows⟩ := System.follows_of_step hs hq hlast
      · cases hstart.1.symm.trans hpanics
      · refine ⟨fun hn => ?_, fun q₁ hq₁ => ?_⟩
        · cases hn.symm.trans hq'
        · obtain rfl := Option.some.inj (hq'.symm.trans hq₁)
          exact (hsome q hq).follows hfollows
    | none =>
      -- only a worker passes milestones, and a new one comes to the pool with none behind it
      have hl : l.worker? ≠ some run := fun hl => by
        obtain ⟨task, hpoint, -⟩ := System.turn_of_step hl hs
        cases hq.symm.trans hpoint
      rw [Moment.milestone?, if_neg hl, Moment.report?, if_neg hl, Option.toList_none,
        List.append_nil, Option.getD_none]
      refine ⟨fun _ => hnone hq, fun q₁ hq₁ => ?_⟩
      obtain he | ⟨-, -, hqueued⟩ | ⟨he, -⟩ := (System.stepped_of_step hs).point?_cases hl
      · cases hq.symm.trans (he.symm.trans hq₁)
      · obtain rfl := Option.some.inj (hqueued.symm.trans hq₁)
        exact ⟨rfl, hp.reported.unseen hq, hnone hq⟩
      · rw [he, hq] at hq₁
        cases hq₁

/-! ## Where the body begins -/

/-- The change of the snapshot that code of the program asks for. -/
def Label.change? : Label κ → Option Snapshot.Change
  | .act _ (.change c) | .call _ (.change c _) => some c
  | _ => none

theorem Point.eq_of_milestone?_begun {q : Point κ} (h : q.milestone? l = some .begun) :
    q = .initializing [] := by
  unfold milestone? at h
  split at h <;> simp_all

theorem System.begin_of_step (h : s.step setup l = some s')
    (hm : (Moment.mk s l).milestone? run = some .begun) :
    ∃ args, s.point? run = some (.initializing []) ∧
      s' = { s with
        snapshot := s.snapshot.reset
        executions := s.executions + 1 }.goto run (.body (setup.entry s.executions args)) := by
  unfold Moment.milestone? at hm
  split_ifs at hm with hl
  obtain ⟨task, hpoint, hturn⟩ := turn_of_step hl h
  rw [hpoint, Option.bind_some] at hm
  have hq := Point.eq_of_milestone?_begun hm
  obtain ⟨args, q⟩ := task
  subst hq
  cases l with
  | advance r elapsed =>
    obtain rfl := Option.some.inj hl
    exact ⟨args, hpoint, (Option.some.inj hturn).symm⟩
  | act t a | complete t | wake r => cases hl
  | _ => cases hturn

/-- No body begins in the step, and the snapshot changes only as code of the program asks. -/
def System.Untouched (s s' : System κ) (l : Label κ) : Prop :=
  s'.executions = s.executions ∧
    s'.snapshot = (l.change?.map fun c => c.apply s.snapshot).getD s.snapshot

namespace System.Untouched

variable {s₁ : System κ} {args : List String} {q q' : Point κ}

theorem of_acts {t : Thread} {a : Action} (h : s.Acts t a s') : Untouched s s' (.act t a) := by
  cases h <;> exact ⟨rfl, rfl⟩

theorem of_called {c : Call κ} (h : s.Called setup c s₁ q) : Untouched s s₁ (.call run c) := by
  cases h <;> exact ⟨rfl, rfl⟩

/-- Of the turns of a worker, only the one that enters the body is the supervisor's own. -/
theorem of_takes (h : s.Takes setup run args l q s₁ q') (hq : q ≠ .initializing []) :
    Untouched s s₁ l := by
  cases h with
  | enter => exact absurd rfl hq
  | called hcalled => exact of_called hcalled
  | _ => exact ⟨rfl, rfl⟩

/-- **The supervisor touches the snapshot only where the body begins.** -/
theorem of_step (h : s.step setup l = some s') :
    (∃ run, (Moment.mk s l).milestone? run = some .begun) ∨ Untouched s s' l := by
  cases does_of_step h with
  | act _ hacts => exact .inr (of_acts hacts)
  | @complete _ owed => cases owed <;> exact .inr ⟨rfl, rfl⟩
  | wake => exact .inr ⟨rfl, rfl⟩
  | @turn run _ task s₁ _ hl hfree htakes =>
    by_cases hq : task.point = .initializing []
    · have hpoint : s.point? run = some (.initializing []) :=
        point?_eq_some_iff.2 ⟨task, (freeTask?_eq_some_iff.1 hfree).2, hq⟩
      exact .inl ⟨run, by simp [Moment.milestone?, hl, hpoint, Point.milestone?]⟩
    · have hrest : Untouched s s₁ l := of_takes htakes hq
      exact .inr hrest

end System.Untouched

/-! ## The life of every run -/

/-- What the runs of a program do, whatever its libraries, its body and other threads do. Runs in
whose start an observer panics are left out. Wherever a run is, the milestones that it has passed
are those of its course, and one that is done has a whole life behind it; one that is served comes
to be done. The body begins in the step that resets the snapshot: nothing has been written, and what
has been declared is as it was. In every other step the snapshot changes as code of the program
asks. -/
structure LifeCycle (setup : Setup κ) : Prop where
  course : ∀ directory p s run q, Trail setup (System.initial setup directory) p s →
    p.any (Moment.startPanics run) = false → s.point? run = some q →
      q.chapter.Course setup (lastReported run p) (milestones run p)
  whole : ∀ directory p s run, Trail setup (System.initial setup directory) p s →
    p.any (Moment.startPanics run) = false → s.point? run = some .done →
      ∃ outcome result, Life setup (lastReported run p) (milestones run p) outcome result
  ends : ∀ (e : Schedule setup) run n, (e.moment n).starts = true →
    (e.moments n).countP Moment.starts = run → Served e run →
      ∃ k, n < k ∧ (e.state k).point? run = some .done
  begins : ∀ s s' l run, s.step setup l = some s' →
    (Moment.mk s l).milestone? run = some .begun →
      (∃ args, s'.point? run = some (.body (setup.entry s.executions args))) ∧
        s'.executions = s.executions + 1 ∧
        ∀ query, s'.snapshot.answer query = query.blank?.getD (s.snapshot.answer query)
  untouched : ∀ s s' l, s.step setup l = some s' →
    (∀ run, (Moment.mk s l).milestone? run ≠ some .begun) → System.Untouched s s' l

/-- **The life cycle of every run.** -/
theorem lifeCycle (setup : Setup κ) : LifeCycle setup where
  course _ _ _ _ q hp hstart hq := (hp.course hstart).2 q hq
  whole _ _ _ _ hp hstart hq := (hp.course hstart).2 .done hq
  ends _ _ _ hx hrun hs := Schedule.exists_done hs hx hrun
  begins s s' l run h hm := by
    obtain ⟨args, hq, rfl⟩ := System.begin_of_step h hm
    exact ⟨⟨args, System.point?_goto (p := .initializing []) hq⟩, rfl,
      s.snapshot.answer_reset⟩
  untouched s s' l h hm := by
    obtain ⟨run, hrun⟩ | hu := System.Untouched.of_step h
    · exact absurd hrun (hm run)
    · exact hu

/-! ## A run in which a library refuses to start -/

/-- A program with three libraries. -/
def threeLibraries : Setup Unit :=
  { Setup.bare () with libraries := ["math", "files", "text"] }

/-- The second library panics when it starts, and the first two fail when they stop. -/
def refusedStart : List (Label Unit) :=
  [.act (.controller 0) (.addObserver "o"), .act (.controller 0) (.start [] .stopped),
    .complete (.controller 0), .advance 0 0, .advance 0 0, .returned 0, .advance 0 0, .returned 0,
    .panicked 0 (.text "no device"), .libraryFailed 0 ⟨"math", "busy"⟩, .panicked 0 .other,
    .returned 0, .advance 0 0, .advance 0 0, .advance 0 0, .advance 0 0,
    .panicked 0 (.text "observer failed"), .advance 0 0]

theorem lifeCycle_refusedStart :
    let s₀ := System.initial threeLibraries ""
    let p := s₀.moments threeLibraries refusedStart
    let error : LibraryError := ⟨"files", "panicked during initialization: " ++ "no device"⟩
    ∃ s, s₀.steps threeLibraries refusedStart = some s ∧ s.point? 0 = some .done ∧
      s.executions = 0 ∧ p.any (Moment.startPanics 0) = false ∧
      milestones 0 p = [.told .started, .initialized "math" .returned,
        .initialized "files" (.panicked (.text "no device")),
        .finalized "math" (.failed ⟨"math", "busy"⟩), .finalized "files" (.panicked .other),
        .finalized "text" .returned, .classified (.error (.library error)),
        .told (.ended (.failed (.unplaced .library error.display) 0))] ∧
      ∃ outcome result, Life threeLibraries (lastReported 0 p) (milestones 0 p) outcome result :=
  ⟨_, rfl, rfl, rfl, rfl, rfl,
    (lifeCycle threeLibraries).whole _ _ _ _ (trail_of_steps rfl) rfl rfl⟩

end RunControl
