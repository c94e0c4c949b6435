import RunControl.Proofs.Panicless

/-!
# The demos that compute are exact

The sum and the quotient of two integers of 64 bits are written as they are in mathematics, or the
run fails and says why: an operand is missing or is no integer, the divisor is zero, or the result
is out of range.

* `SumEnds`, `DivideEnds`: all the ways in which the two demos end, said without their bodies;
* `Terminal.Account`: what everyone sees of a run, its result, its texts and its scalars;
* `Demo.account_sum`, `Demo.account_divide`: a run without pauses ends in the way that is said;
* **`Terminal.exactArithmetic`**: exactly when a run ends well, and that none ends in a panic.
-/

namespace RunControl

open Terminal (Solo Seen)

/-! ## The ways to end -/

/-- The operands are two arguments, or are entered on the first two lines of the input; so many
lines are read. -/
inductive Operands (args : List String) (input : List ConsoleLine) : ℤ → ℤ → ℕ → Prop
  | given {x y : String} {a b : ℤ} :
    args = [x, y] → IsNumeral x a → IsNumeral y b → Operands args input a b 0
  | entered {a b : ℤ} :
    args.length ≠ 2 → Enters input[0]? a → Enters input[1]? b → Operands args input a b 2

namespace Diagnostic

/-- An argument is no integer. -/
def notInteger (arg : String) (line : UInt32) : Diagnostic :=
  ⟨.unhandled, ⟨line, 1⟩, "An unhandled error occurred during execution: " ++
    ("InvalidConversion: " ++ ("'" ++ arg ++ "' is not an integer"))⟩

/-- No integer is entered. -/
def noInteger (position : Position) : Diagnostic :=
  ⟨.invalidInput, position, "The value entered is not a valid integer"⟩

/-- The result is out of range. -/
def overflow (position : Position) : Diagnostic :=
  ⟨.arithmetic, position, "Arithmetic error: integer overflow"⟩

/-- The divisor is zero. -/
def zeroDivisor (position : Position) : Diagnostic :=
  ⟨.divisionByZero, position, "Division by zero is not allowed"⟩

end Diagnostic

/-- How the sum ends with these arguments and this input: the result less the time, the texts that
are written, how many lines are read, and the scalars that are shown. -/
inductive SumEnds (args : List String) (input : List ConsoleLine) :
    RunResult → List String → ℕ → List ℤ → Prop
  | normal {a b : ℤ} {reads : ℕ} : Operands args input a b reads → InRange (a + b) →
    SumEnds args input (.normal 0) ["sum = ", Numeral.intText (a + b), "\n"] reads [a, b, a + b]
  | overflow {a b : ℤ} {reads : ℕ} : Operands args input a b reads → ¬ InRange (a + b) →
    SumEnds args input (.failed (.overflow ⟨5, 21⟩) 0) [] reads [a, b]
  | firstArgument {x y : String} : args = [x, y] → (¬ ∃ a, IsNumeral x a) →
    SumEnds args input (.failed (.notInteger x 3) 0) [] 0 []
  | secondArgument {x y : String} {a : ℤ} : args = [x, y] → IsNumeral x a → (¬ ∃ b, IsNumeral y b) →
    SumEnds args input (.failed (.notInteger y 4) 0) [] 0 []
  | firstRead : args.length ≠ 2 → (¬ ∃ a, Enters input[0]? a) →
    SumEnds args input (.failed (.noInteger ⟨3, 3⟩) 0) [] 1 []
  | secondRead {a : ℤ} : args.length ≠ 2 → Enters input[0]? a → (¬ ∃ b, Enters input[1]? b) →
    SumEnds args input (.failed (.noInteger ⟨4, 3⟩) 0) [] 2 [a]

/-- How the quotient ends with this input. It has no use for arguments. -/
inductive DivideEnds (input : List ConsoleLine) : RunResult → List String → ℕ → List ℤ → Prop
  | normal {a b : ℤ} : Enters input[0]? a → Enters input[1]? b → b ≠ 0 →
    ¬ (a = -2 ^ 63 ∧ b = -1) →
    DivideEnds input (.normal 0) [Numeral.intText (a.tdiv b), "\n"] 2 [a, b]
  | zero {a : ℤ} : Enters input[0]? a → Enters input[1]? 0 →
    DivideEnds input (.failed (.zeroDivisor ⟨5, 11⟩) 0) [] 2 [a, 0]
  | overflow : Enters input[0]? (-2 ^ 63) → Enters input[1]? (-1) →
    DivideEnds input (.failed (.overflow ⟨5, 11⟩) 0) [] 2 [-2 ^ 63, -1]
  | firstRead : (¬ ∃ a, Enters input[0]? a) →
    DivideEnds input (.failed (.noInteger ⟨3, 3⟩) 0) [] 1 []
  | secondRead {a : ℤ} : Enters input[0]? a → (¬ ∃ b, Enters input[1]? b) →
    DivideEnds input (.failed (.noInteger ⟨4, 3⟩) 0) [] 2 [a]

/-- The first scalars are these integers. -/
def Snapshot.Displays (s : Snapshot) (values : List ℤ) : Prop := ∀ i z, values[i]? = some z →
  ∃ n : Int64, n.toInt = z ∧ s.scalar i = .value (.integer n)

/-- What everyone sees of a run. -/
structure Terminal.Account (p : TerminalPlan) (input : List ConsoleLine) (t : Terminal)
    (r : RunResult) (texts : List String) (reads : ℕ) (values : List ℤ) : Prop where
  seen : Seen p input t r texts reads
  displays : t.system.snapshot.Displays values

variable {p : TerminalPlan} {input : List ConsoleLine} {m : List Terminal.Move} {t : Terminal}
  {args : List String} {r : RunResult} {texts : List String} {reads : ℕ} {values : List ℤ} {a b : ℤ}
  {s : Recital}

/-! ## Scalars -/

namespace Snapshot

variable {s : Snapshot}

theorem displays_nil (s : Snapshot) : s.Displays [] := nofun

theorem size_apply_writeScalar (i : ℕ) (c : Cell) :
    ((Change.writeScalar i c).apply s).scalars.size = s.scalars.size := Slots.size_put _ _ _

theorem Displays.write (h : s.Displays values) (hsize : values.length < s.scalars.size)
    (n : Int64) : ((Change.writeScalar values.length (.value (.integer n))).apply s).Displays
      (values ++ [n.toInt]) := by
  intro i z hz
  have hscalar : ((Change.writeScalar values.length (.value (.integer n))).apply s).scalar i =
      if i = values.length then .value (.integer n) else s.scalar i := by
    simp only [Change.apply, Change.run, scalar, Slots.get?_put, hsize, true_and]
    split_ifs <;> rfl
  rw [hscalar]
  rcases Nat.lt_trichotomy i values.length with hlt | rfl | hgt
  · rw [List.getElem?_append_left hlt] at hz
    rw [if_neg hlt.ne]
    exact h i z hz
  · rw [List.getElem?_concat_length] at hz
    rw [if_pos rfl]
    exact ⟨n, Option.some.inj hz, rfl⟩
  · rw [List.getElem?_eq_none (by rw [List.length_append]; exact hgt)] at hz
    cases hz

end Snapshot

namespace Demo

theorem size_declare (s : Recital) (count : ℕ) :
    (declare s count).snapshot.scalars.size = s.snapshot.scalars.size := by
  rw [declare]
  generalize List.range count = ids
  dsimp only
  generalize s.snapshot = snapshot
  induction ids generalizing snapshot with
  | nil => rfl
  | cons id ids ih => exact (ih _).trans (Slots.size_put _ _ _)

theorem size_equip (s : Recital) (reads : ℕ) (m n : Int64) :
    (equip s reads m n).snapshot.scalars.size = s.snapshot.scalars.size :=
  (Snapshot.size_apply_writeScalar _ _).trans (Snapshot.size_apply_writeScalar _ _)

theorem displays_equip (hsize : 2 ≤ s.snapshot.scalars.size) (reads : ℕ) (m n : Int64) :
    (equip s reads m n).snapshot.Displays [m.toInt, n.toInt] := by
  refine ((Snapshot.displays_nil _).write ?_ m).write ?_ n
  · exact Nat.lt_of_lt_of_le Nat.two_pos hsize
  · rw [Snapshot.size_apply_writeScalar]
    exact Nat.lt_of_lt_of_le Nat.one_lt_two hsize

end Demo

/-! ## Runs -/

theorem Terminal.Solo.account {outcome : Except Fault Unit} (hs : Solo p input m t)
    (hplay : p.body.play (p.recital input) = (s, outcome))
    (hresult : RunResult.ofOutcome Translators.standard p.demo.info s.position 0 outcome = .ok r)
    (hdisplays : s.snapshot.Displays values) :
    Terminal.Account p input t r.timeless s.texts.reverse s.reads values := by
  obtain ⟨hseen, hsnapshot⟩ := hs.seen hplay hresult
  refine ⟨hseen, ?_⟩
  rw [hsnapshot]
  exact hdisplays

theorem Terminal.Account.loop_iff (h : Terminal.Account p input t r texts reads values) :
    t.loop = .done (.ok .normal) ↔ r.termination = .normal := by
  obtain ⟨result, rfl, hloop, -⟩ := h.seen.outcome
  rw [hloop]
  show _ ↔ result.termination = .normal
  simp

namespace Demo

open Routine

/-! ## Operands that are read -/

variable {compute : Int64 → Int64 → Routine Body Unit} {count : ℕ}

/-- The demo of the plan declares so many scalars, reads its operands, and then computes. -/
def ReadsOperands (p : TerminalPlan) (input : List ConsoleLine) (count : ℕ)
    (compute : Int64 → Int64 → Routine Body Unit) : Prop :=
  ∀ x s', Leads (withOperands none compute) (declare (p.recital input) count) x s' →
    p.body.play (p.recital input) = (s', x)

theorem account_firstRead (hplay : ReadsOperands p input count compute)
    (ha : ¬ ∃ a, Enters input[0]? a) (hs : Solo p input m t) :
    Terminal.Account p input t (.failed (.noInteger ⟨3, 3⟩) 0) [] 1 [] := by
  have hm := reply_of_not_enters ha
  rw [← List.head?_eq_getElem?] at hm
  exact hs.account (hplay _ _ (leads_withOperands_first (by exact hm))) (by rfl)
    (Snapshot.displays_nil _)

theorem account_secondRead (hplay : ReadsOperands p input count compute)
    (hsize : 0 < (p.recital input).snapshot.scalars.size) (ha : Enters input[0]? a)
    (hb : ¬ ∃ b, Enters input[1]? b) (hs : Solo p input m t) :
    Terminal.Account p input t (.failed (.noInteger ⟨4, 3⟩) 0) [] 2 [a] := by
  obtain ⟨m, rfl, hm⟩ := ha.exists_reply
  have hn := reply_of_not_enters hb
  rw [← List.head?_eq_getElem?] at hm
  rw [← List.head?_tail] at hn
  refine hs.account (hplay _ _ (leads_withOperands_second (by exact hm) (by exact hn))) (by rfl) ?_
  refine (Snapshot.displays_nil _).write ?_ m
  rwa [← size_declare _ count] at hsize

theorem ReadsOperands.entered (hplay : ReadsOperands p input count compute)
    (ha : Enters input[0]? a) (hb : Enters input[1]? b) : ∃ m n : Int64, m.toInt = a ∧
      n.toInt = b ∧ ∀ x s', Leads (compute m n) (equip (declare (p.recital input) count) 2 m n) x
        s' → p.body.play (p.recital input) = (s', x) := by
  obtain ⟨m, rfl, hm⟩ := ha.exists_reply
  obtain ⟨n, rfl, hn⟩ := hb.exists_reply
  rw [← List.head?_eq_getElem?] at hm
  rw [← List.head?_tail] at hn
  refine ⟨m, n, rfl, rfl, fun x s' h => hplay x s' ?_⟩
  exact leads_withOperands_entered (by exact hm) (by exact hn) h

/-! ## The sum -/

theorem twoIntegers_of_length_ne (h : args.length ≠ 2) :
    (twoIntegers args : Routine Body _) = pure none := by
  match args with
  | [] | [_] | _ :: _ :: _ :: _ => rfl
  | [_, _] => exact absurd rfl h

theorem play_sum {x : Except Fault Unit} (hp : p.demo = .sum)
    (h : Leads (sumRoutine p.args) (p.recital input) x s) :
    p.body.play (p.recital input) = (s, x) := by
  rw [TerminalPlan.body, hp]
  exact h.play_body

theorem readsOperands_sum (hp : p.demo = .sum) (hargs : p.args.length ≠ 2) :
    ReadsOperands p input 3 addition := by
  intro x s' h
  refine play_sum hp (leads_sumRoutine ?_ h)
  rw [twoIntegers_of_length_ne hargs]
  exact leads_pure _ _

theorem play_sum_operands (hp : p.demo = .sum) (h : Operands p.args input a b reads) :
    ∃ m n : Int64, m.toInt = a ∧ n.toInt = b ∧
      ∀ x s', Leads (addition m n) (equip (declare (p.recital input) 3) reads m n) x s' →
        p.body.play (p.recital input) = (s', x) := by
  cases h with
  | given hargs hx hy =>
    obtain ⟨m, rfl, hm⟩ := hx.exists_int64?
    obtain ⟨n, rfl, hn⟩ := hy.exists_int64?
    refine ⟨m, n, rfl, rfl, fun x s' h => play_sum hp ?_⟩
    rw [hargs]
    refine leads_sumRoutine ?_ (leads_withOperands_given h)
    exact (leads_integerArgument hm).bind ((leads_integerArgument hn).bind (leads_pure _ _))
  | entered hargs hx hy => exact (readsOperands_sum hp hargs).entered hx hy

theorem size_sum (hp : p.demo = .sum) : (p.recital input).snapshot.scalars.size = 3 := by
  rw [TerminalPlan.recital, hp]
  rfl

/-- **A run of the sum without pauses ends in the way that is said.** -/
theorem account_sum (hp : p.demo = .sum) (h : SumEnds p.args input r texts reads values)
    (hs : Solo p input m t) : Terminal.Account p input t r texts reads values := by
  -- one case for every way to end: each gives the play of the body, from which the account follows
  have hsize : (declare (p.recital input) 3).snapshot.scalars.size = 3 := by
    rw [size_declare, size_sum hp]
  cases h with
  | normal hoperands hrange =>
    obtain ⟨m, n, rfl, rfl, hplay⟩ := play_sum_operands hp hoperands
    obtain ⟨total, htotal, hexact⟩ := hrange.exists_toInt?
    rw [← htotal, ← Nat.zero_add reads]
    refine hs.account (hplay _ _ (leads_addition hexact)) rfl ?_
    refine (displays_equip (by rw [hsize]; decide) reads m n).write ?_ total
    rw [size_equip, hsize]
    exact Nat.lt_succ_self 2
  | overflow hoperands hrange =>
    obtain ⟨m, n, rfl, rfl, hplay⟩ := play_sum_operands hp hoperands
    rw [← Nat.zero_add reads]
    refine hs.account (hplay _ _ (leads_addition_error (toInt64?_of_not_inRange hrange)))
      (by rfl) ?_
    exact displays_equip (by rw [hsize]; decide) reads m n
  | @firstArgument x y hargs hx =>
    have hfirst : Leads (twoIntegers p.args) (declare (p.recital input) 3)
        (.error (conversionFault x 3)) (declare (p.recital input) 3) := by
      rw [hargs]
      exact (leads_integerArgument_error (int64?_of_not_isNumeral hx)).bind_error
    exact hs.account (play_sum hp (leads_sumRoutine_error hfirst)) (by rfl)
      (Snapshot.displays_nil _)
  | @secondArgument x y a hargs hx hy =>
    obtain ⟨m, -, hm⟩ := hx.exists_int64?
    have hsecond : Leads (twoIntegers p.args) (declare (p.recital input) 3)
        (.error (conversionFault y 4)) (declare (p.recital input) 3) := by
      rw [hargs]
      exact (leads_integerArgument hm).bind
        (leads_integerArgument_error (int64?_of_not_isNumeral hy)).bind_error
    exact hs.account (play_sum hp (leads_sumRoutine_error hsecond)) (by rfl)
      (Snapshot.displays_nil _)
  | firstRead hargs ha => exact account_firstRead (readsOperands_sum hp hargs) ha hs
  | secondRead hargs ha hb =>
    exact account_secondRead (readsOperands_sum hp hargs) (by rw [size_sum hp]; decide) ha hb hs

theorem exists_sumEnds (args : List String) (input : List ConsoleLine) :
    ∃ r texts reads values, SumEnds args input r texts reads values := by
  have hoperands {a b reads} (h : Operands args input a b reads) :
      ∃ r texts reads values, SumEnds args input r texts reads values := by
    by_cases hrange : InRange (a + b)
    · exact ⟨_, _, _, _, .normal h hrange⟩
    · exact ⟨_, _, _, _, .overflow h hrange⟩
  by_cases hlength : args.length = 2
  · obtain ⟨x, y, rfl⟩ := List.length_eq_two.1 hlength
    by_cases hx : ∃ a, IsNumeral x a
    · by_cases hy : ∃ b, IsNumeral y b
      · exact hoperands (.given rfl hx.choose_spec hy.choose_spec)
      · exact ⟨_, _, _, _, .secondArgument rfl hx.choose_spec hy⟩
    · exact ⟨_, _, _, _, .firstArgument rfl hx⟩
  · by_cases ha : ∃ a, Enters input[0]? a
    · by_cases hb : ∃ b, Enters input[1]? b
      · exact hoperands (.entered hlength ha.choose_spec hb.choose_spec)
      · exact ⟨_, _, _, _, .secondRead hlength ha.choose_spec hb⟩
    · exact ⟨_, _, _, _, .firstRead hlength ha⟩

/-! ## The quotient -/

theorem readsOperands_divide (hp : p.demo = .divide) : ReadsOperands p input 2 division := by
  intro x s' h
  rw [TerminalPlan.body, hp]
  exact (leads_divideRoutine h).play_body

theorem size_divide (hp : p.demo = .divide) : (p.recital input).snapshot.scalars.size = 2 := by
  rw [TerminalPlan.recital, hp]
  rfl

/-- **A run of the quotient without pauses ends in the way that is said.** -/
theorem account_divide (hp : p.demo = .divide) (h : DivideEnds input r texts reads values)
    (hs : Solo p input m t) : Terminal.Account p input t r texts reads values := by
  have hreads : ReadsOperands p input 2 division := readsOperands_divide hp
  have hdisplays (m n : Int64) :
      (equip (declare (p.recital input) 2) 2 m n).snapshot.Displays [m.toInt, n.toInt] :=
    displays_equip (by rw [size_declare, size_divide hp]) 2 m n
  cases h with
  | normal ha hb hzero hleast =>
    obtain ⟨m, n, rfl, rfl, hplay⟩ := hreads.entered ha hb
    obtain ⟨q, hq, hexact⟩ := ((inRange_tdiv_iff (inRange_toInt m) hzero).2 hleast).exists_toInt?
    have hn : n ≠ 0 := fun h => hzero (congrArg Int64.toInt h)
    rw [← hq]
    exact hs.account (hplay _ _ (leads_division hn hexact)) rfl (hdisplays m n)
  | zero ha hb =>
    obtain ⟨m, n, rfl, hn, hplay⟩ := hreads.entered ha hb
    obtain rfl : n = 0 := Int64.toInt_inj.1 hn
    exact hs.account (hplay _ _ (leads_division_zero m _)) (by rfl) (hdisplays m 0)
  | overflow ha hb =>
    obtain ⟨m, n, hm, hn, hplay⟩ := hreads.entered ha hb
    have hzero : n.toInt ≠ 0 := by omega
    have hexact := toInt64?_of_not_inRange fun h =>
      (inRange_tdiv_iff (inRange_toInt m) hzero).1 h ⟨hm, hn⟩
    rw [← hm, ← hn]
    exact hs.account
      (hplay _ _ (leads_division_error (fun h => hzero (congrArg Int64.toInt h)) hexact)) (by rfl)
      (hdisplays m n)
  | firstRead ha => exact account_firstRead hreads ha hs
  | secondRead ha hb => exact account_secondRead hreads (by rw [size_divide hp]; decide) ha hb hs

theorem exists_divideEnds (input : List ConsoleLine) :
    ∃ r texts reads values, DivideEnds input r texts reads values := by
  by_cases ha : ∃ a, Enters input[0]? a
  · obtain ⟨a, ha⟩ := ha
    by_cases hb : ∃ b, Enters input[1]? b
    · obtain ⟨b, hb⟩ := hb
      by_cases hzero : b = 0
      · subst hzero
        exact ⟨_, _, _, _, .zero ha hb⟩
      by_cases hleast : a = -2 ^ 63 ∧ b = -1
      · obtain ⟨rfl, rfl⟩ := hleast
        exact ⟨_, _, _, _, .overflow ha hb⟩
      · exact ⟨_, _, _, _, .normal ha hb hzero hleast⟩
    · exact ⟨_, _, _, _, .secondRead ha hb⟩
  · exact ⟨_, _, _, _, .firstRead ha⟩

/-! ## Runs that end well -/

theorem sum_normal_iff (hp : p.demo = .sum) (hs : Solo p input m t) :
    t.loop = .done (.ok .normal) ↔
      ∃ a b reads, Operands p.args input a b reads ∧ InRange (a + b) := by
  constructor
  · intro hloop
    obtain ⟨r, texts, reads, values, hends⟩ := exists_sumEnds p.args input
    have hnormal := (account_sum hp hends hs).loop_iff.1 hloop
    cases hends with
    | normal hoperands hrange => exact ⟨_, _, _, hoperands, hrange⟩
    | _ => cases hnormal
  · rintro ⟨a, b, reads, hoperands, hrange⟩
    exact (account_sum hp (.normal hoperands hrange) hs).loop_iff.2 rfl

theorem divide_normal_iff (hp : p.demo = .divide) (hs : Solo p input m t) :
    t.loop = .done (.ok .normal) ↔ ∃ a b, Enters input[0]? a ∧ Enters input[1]? b ∧ b ≠ 0 ∧
      ¬ (a = -2 ^ 63 ∧ b = -1) := by
  constructor
  · intro hloop
    obtain ⟨r, texts, reads, values, hends⟩ := exists_divideEnds input
    have hnormal := (account_divide hp hends hs).loop_iff.1 hloop
    cases hends with
    | normal ha hb hzero hleast => exact ⟨_, _, ha, hb, hzero, hleast⟩
    | _ => cases hnormal
  · rintro ⟨a, b, ha, hb, hzero, hleast⟩
    exact (account_divide hp (.normal ha hb hzero hleast) hs).loop_iff.2 rfl

end Demo

namespace Terminal

/-- What is known of the demos that compute, with a plan and an input. An execution comes to its
end, for none goes on for ever but for a worker that wakes up for no reason, and without pauses the
user is not asked for a command. The sum and the quotient end in one of their ways, and what
everyone sees follows from arguments and input. None ends in a panic, not even one that pauses. -/
structure ExactArithmetic (p : TerminalPlan) (input : List ConsoleLine) : Prop where
  ends : ∃ m t, Trail p input m t ∧ t.isDone = true
  bounded : ∀ {m t}, Trail p input m t → m.length ≤ p.patience input + 2 * wakes m
  unpaused : ∀ {m t}, Trail p input m t → t.isDone = true → Unpaused m → Solo p input m t
  pausesNowhere : p.PausesNowhere → ∀ {m t}, Trail p input m t → t.isDone = true →
    Solo p input m t
  sumEnds : ∃ r texts reads values, SumEnds p.args input r texts reads values
  sum : p.demo = .sum → ∀ {r texts reads values}, SumEnds p.args input r texts reads values →
    ∀ {m t}, Solo p input m t → Account p input t r texts reads values
  sumNormal_iff : p.demo = .sum → ∀ {m t}, Solo p input m t → (t.loop = .done (.ok .normal) ↔
    ∃ a b reads, Operands p.args input a b reads ∧ InRange (a + b))
  divideEnds : ∃ r texts reads values, DivideEnds input r texts reads values
  divide : p.demo = .divide → ∀ {r texts reads values}, DivideEnds input r texts reads values →
    ∀ {m t}, Solo p input m t → Account p input t r texts reads values
  divideNormal_iff : p.demo = .divide → ∀ {m t}, Solo p input m t →
    (t.loop = .done (.ok .normal) ↔ ∃ a b, Enters input[0]? a ∧ Enters input[1]? b ∧ b ≠ 0 ∧
      ¬ (a = -2 ^ 63 ∧ b = -1))
  noPanic : p.demo = .sum ∨ p.demo = .divide → ∀ {m t}, Trail p input m t → t.isDone = true →
    ∃ d : Dialogue, Concluded p d m t ∧
      ∃ r, d.result = some r ∧ ¬ r.IsPanic t.system.control.position

/-- **Sums and quotients are exact, or the run fails and says why.** -/
theorem exactArithmetic (p : TerminalPlan) (input : List ConsoleLine) :
    ExactArithmetic p input where
  ends := Trail.nil.exists_done
  bounded ht := ht.length_le
  unpaused ht hd hm := ⟨ht, hd, ht.loop_not_mem hm⟩
  pausesNowhere hp _ _ ht hd := ht.solo_of_pausesNowhere hp hd
  sumEnds := Demo.exists_sumEnds p.args input
  sum hp _ _ _ _ h _ _ hs := Demo.account_sum hp h hs
  sumNormal_iff hp _ _ hs := Demo.sum_normal_iff hp hs
  divideEnds := Demo.exists_divideEnds input
  divide hp _ _ _ _ h _ _ hs := Demo.account_divide hp h hs
  divideNormal_iff hp _ _ hs := Demo.divide_normal_iff hp hs
  noPanic hp _ _ ht hd := ht.not_isPanic hp hd

end Terminal

end RunControl
