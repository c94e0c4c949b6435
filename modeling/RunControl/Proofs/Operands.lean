import RunControl.Proofs.Numerals
import RunControl.Proofs.Recital
import RunControl.Proofs.Trimming

/-!
# Two operands and what is done with them

Two of the demos obtain two integers, one after the other, and then compute. The integers are given
as arguments, or they are read from the input.

* `InRange`, `IsNumeral`, `Enters`: which texts and lines stand for an integer, whoever reads them;
* `Demo.withOperands`: how both demos obtain their operands, and `Demo.sumRoutine_eq`,
  `Demo.divideRoutine_eq`: what they have in common;
* **`Demo.leads_withOperands_given`**, **`Demo.leads_withOperands_entered`**: where a demo is once
  it has both operands;
* `Demo.leads_withOperands_first`, `Demo.leads_withOperands_second`: what becomes of it if one of
  them is missing;
* `Demo.leads_addition`, `Demo.leads_division`: what is done with them.
-/

namespace RunControl

/-! ## Texts that stand for an integer -/

/-- An integer of 64 bits. -/
def InRange (z : ℤ) : Prop := -2 ^ 63 ≤ z ∧ z ≤ 2 ^ 63 - 1

instance (z : ℤ) : Decidable (InRange z) := inferInstanceAs (Decidable (_ ∧ _))

/-- The text is a numeral of the integer, with blanks around it. -/
def IsNumeral (s : String) (z : ℤ) : Prop :=
  InRange z ∧ ∃ t, Text.Trims s.toList t ∧ Numeral.Signed t z

/-- There is a line, and it is a numeral of the integer, with blanks around it. -/
def Enters (line : Option ConsoleLine) (z : ℤ) : Prop :=
  ∃ s, line = some (.text s) ∧ IsNumeral s z

theorem inRange_toInt (n : Int64) : InRange n.toInt := Numeral.exists_toInt_iff.1 ⟨n, rfl⟩

theorem InRange.exists_toInt? {z : ℤ} (h : InRange z) :
    ∃ n : Int64, n.toInt = z ∧ Numeral.toInt64? z = some n := by
  obtain ⟨n, hn⟩ := Numeral.exists_toInt_iff.2 h
  exact ⟨n, hn, Numeral.toInt64?_eq_some_iff.2 hn⟩

theorem toInt64?_of_not_inRange {z : ℤ} (h : ¬ InRange z) : Numeral.toInt64? z = none := by
  rw [Option.eq_none_iff_forall_ne_some]
  intro n hn
  exact h (Numeral.toInt64?_eq_some_iff.1 hn ▸ inRange_toInt n)

theorem isNumeral_toInt_iff {s : String} {n : Int64} :
    IsNumeral s n.toInt ↔ Numeral.int64? (Text.trim s.toList) = some n := by
  simp only [IsNumeral, Text.trims_iff, exists_eq_left', Numeral.int64?_eq_some_iff, inRange_toInt,
    true_and]

theorem IsNumeral.exists_int64? {s : String} {z : ℤ} (h : IsNumeral s z) :
    ∃ n : Int64, n.toInt = z ∧ Numeral.int64? (Text.trim s.toList) = some n := by
  obtain ⟨n, rfl, -⟩ := h.1.exists_toInt?
  exact ⟨n, rfl, isNumeral_toInt_iff.1 h⟩

theorem int64?_of_not_isNumeral {s : String} (h : ¬ ∃ z, IsNumeral s z) :
    Numeral.int64? (Text.trim s.toList) = none := by
  rw [Option.eq_none_iff_forall_ne_some]
  intro n hn
  exact h ⟨n.toInt, isNumeral_toInt_iff.2 hn⟩

theorem reply_integer_text (s : String) : ConsoleLine.reply .integer (some (.text s)) =
    match Numeral.int64? (Text.trim s.toList) with
    | some n => .ok (.integer n)
    | none => .error (Fault.invalidInput .integer) := by
  simp only [ConsoleLine.reply, Entered.ofLine, Value.ofLine, Value.ofTrimmed?,
    Text.trim_trimEnd_isLineEnd]
  cases Numeral.int64? (Text.trim s.toList) <;> rfl

theorem Enters.exists_reply {line : Option ConsoleLine} {z : ℤ} (h : Enters line z) :
    ∃ n : Int64, n.toInt = z ∧ ConsoleLine.reply .integer line = .ok (.integer n) := by
  obtain ⟨s, rfl, hs⟩ := h
  obtain ⟨n, hn, hread⟩ := hs.exists_int64?
  refine ⟨n, hn, ?_⟩
  rw [reply_integer_text, hread]

/-- No integer is entered: the line is missing, or it is no text, or no numeral of an integer in
range. -/
theorem reply_of_not_enters {line : Option ConsoleLine} (h : ¬ ∃ z, Enters line z) :
    ConsoleLine.reply .integer line = .error (Fault.invalidInput .integer) := by
  match line with
  | none | some .garbled => rfl
  | some (.text s) =>
    have hs : ¬ ∃ z, IsNumeral s z := fun ⟨z, hz⟩ => h ⟨z, s, rfl, hz⟩
    rw [reply_integer_text, int64?_of_not_isNumeral hs]

/-! ## Results that may be out of range -/

/-- The only quotient that is out of range is that of the least integer by minus one. -/
theorem inRange_tdiv_iff {a b : ℤ} (ha : InRange a) (hb : b ≠ 0) :
    InRange (a.tdiv b) ↔ ¬ (a = -2 ^ 63 ∧ b = -1) := by
  constructor
  · rintro h ⟨rfl, rfl⟩
    exact absurd h (by decide)
  · intro hne
    rw [InRange] at ha ⊢
    rcases eq_or_ne b (-1) with rfl | hneg
    · rw [Int.tdiv_neg, Int.tdiv_one]
      omega
    rcases eq_or_ne b 1 with rfl | hone
    · rwa [Int.tdiv_one]
    · have hhalf : (a.tdiv b).natAbs ≤ a.natAbs / 2 := by
        rw [Int.natAbs_tdiv]
        exact Nat.div_le_div_left (by omega) Nat.two_pos
      omega

/-! ## The bodies of the two demos -/

namespace Demo

open Routine

/-- An operand that may be given. -/
def operand : Option Int64 → Routine Body Int64
  | some n => pure n
  | none => readInteger

/-- Obtain two operands, show them, and compute with them. -/
def withOperands (given : Option (Int64 × Int64)) (compute : Int64 → Int64 → Routine Body Unit) :
    Routine Body Unit := do
  pausePoint 3 3
  let a ← operand (given.map (·.1))
  showScalar 0 a
  pausePoint 4 3
  let b ← operand (given.map (·.2))
  showScalar 1 b
  pausePoint 5 3
  compute a b

/-- Add the operands, and show and write the sum. -/
def addition (a b : Int64) : Routine Body Unit := do
  let total ← exact (a.toInt + b.toInt) ⟨5, 21⟩
  showScalar 2 total
  pausePoint 6 3
  writeText "sum = "
  writeInteger total
  writeText "\n"

/-- Divide the operands, and write the quotient. -/
def division (a b : Int64) : Routine Body Unit := do
  let q ← quotient a b ⟨5, 11⟩
  writeInteger q
  writeText "\n"

theorem sumRoutine_eq (args : List String) : sumRoutine args = (do
    change (.declareScalar 0)
    change (.declareScalar 1)
    change (.declareScalar 2)
    let given ← twoIntegers args
    withOperands given addition) := by
  funext ok err
  refine congrArg (fun rest => Asks.ask (.change (.declareScalar 0) (Asks.ask
    (.change (.declareScalar 1) (Asks.ask (.change (.declareScalar 2)
      (twoIntegers args rest err))))))) (funext fun given => ?_)
  -- a given operand is gone on with at once
  cases given <;> rfl

theorem divideRoutine_eq : divideRoutine = (do
    change (.declareScalar 0)
    change (.declareScalar 1)
    withOperands none division) := rfl

/-! ## Where they lead -/

variable {s s' : Recital} {x : Except Fault Unit} {f : Fault} {a b n : Int64}
  {given : Option (Int64 × Int64)} {compute : Int64 → Int64 → Routine Body Unit} {arg : String}
  {line : UInt32} {z : ℤ} {position : Position}

theorem leads_integerArgument (h : Numeral.int64? (Text.trim arg.toList) = some n) :
    Leads (integerArgument arg line) s (.ok n) s := by
  rw [integerArgument, h]
  exact leads_pure n s

/-- The fault of an argument that is no integer. -/
def conversionFault (arg : String) (line : UInt32) : Fault :=
  .runtime ((RuntimeFault.plain .invalidConversion ("'" ++ arg ++ "' is not an integer")).place
    ⟨line, 1⟩)

theorem leads_integerArgument_error (h : Numeral.int64? (Text.trim arg.toList) = none) :
    Leads (integerArgument arg line) s (.error (conversionFault arg line)) s := by
  rw [integerArgument, h]
  exact leads_fail _ s

/-- The fault of a result that is out of range. -/
def overflowFault (position : Position) : Fault :=
  .runtime ((RuntimeFault.plain .arithmetic "integer overflow").place position)

theorem leads_exact (h : Numeral.toInt64? z = some n) : Leads (exact z position) s (.ok n) s := by
  rw [exact, h]
  exact leads_pure n s

theorem leads_exact_error (h : Numeral.toInt64? z = none) :
    Leads (exact z position) s (.error (overflowFault position)) s := by
  rw [exact, h]
  exact leads_fail _ s

/-- Both operands have been obtained and shown, after so many lines have been read. -/
def equip (s : Recital) (reads : ℕ) (a b : Int64) : Recital :=
  { s with
    position := ⟨5, 3⟩
    snapshot := s.snapshot.applyAll
      [.writeScalar 0 (.value (.integer a)), .writeScalar 1 (.value (.integer b))]
    input := s.input.drop reads
    reads := s.reads + reads }

/-- Two operands are given: what the demo does with them decides. -/
theorem leads_withOperands_given (hcompute : Leads (compute a b) (equip s 0 a b) x s') :
    Leads (withOperands (some (a, b)) compute) s x s' := by
  refine (leads_pausePoint 3 3 s).bind ((leads_pure a _).bind ?_)
  refine (leads_writeScalar _ _ _).bind ((leads_pausePoint 4 3 _).bind ((leads_pure b _).bind ?_))
  exact (leads_writeScalar _ _ _).bind ((leads_pausePoint 5 3 _).bind hcompute)

/-- Two operands are entered: what the demo does with them decides. -/
theorem leads_withOperands_entered
    (ha : ConsoleLine.reply .integer s.input.head? = .ok (.integer a))
    (hb : ConsoleLine.reply .integer s.input.tail.head? = .ok (.integer b))
    (hcompute : Leads (compute a b) (equip s 2 a b) x s') :
    Leads (withOperands none compute) s x s' := by
  refine (leads_pausePoint 3 3 s).bind ((leads_readInteger (by exact ha)).bind ?_)
  refine (leads_writeScalar _ _ _).bind ((leads_pausePoint 4 3 _).bind ?_)
  refine (leads_readInteger (by exact hb)).bind ((leads_writeScalar _ _ _).bind ?_)
  refine (leads_pausePoint 5 3 _).bind ?_
  have hinput : s.input.drop 2 = s.input.tail.tail := by
    rw [← List.drop_one, ← List.drop_one, List.drop_drop]
  rw [equip, hinput] at hcompute
  exact hcompute

/-- The first operand is asked for, and refused. -/
theorem leads_withOperands_first (ha : ConsoleLine.reply .integer s.input.head? = .error f) :
    Leads (withOperands none compute) s (.error f) (s.reach ⟨3, 3⟩).take :=
  (leads_pausePoint 3 3 s).bind (leads_readInteger_error (by exact ha)).bind_error

/-- The second operand is asked for, and refused. -/
theorem leads_withOperands_second
    (ha : ConsoleLine.reply .integer s.input.head? = .ok (.integer a))
    (hb : ConsoleLine.reply .integer s.input.tail.head? = .error f) :
    Leads (withOperands none compute) s (.error f)
      (((s.reach ⟨3, 3⟩).take.change (.writeScalar 0 (.value (.integer a)))).reach
        ⟨4, 3⟩).take := by
  refine (leads_pausePoint 3 3 s).bind ((leads_readInteger (by exact ha)).bind ?_)
  refine (leads_writeScalar _ _ _).bind ((leads_pausePoint 4 3 _).bind ?_)
  exact (leads_readInteger_error (by exact hb)).bind_error

theorem leads_addition (h : Numeral.toInt64? (a.toInt + b.toInt) = some n) :
    Leads (addition a b) s (.ok ()) (((((s.change (.writeScalar 2 (.value (.integer n)))).reach
      ⟨6, 3⟩).say "sum = ").say (Value.integer n).display).say "\n") := by
  refine (leads_exact h).bind ((leads_writeScalar _ _ s).bind ((leads_pausePoint 6 3 _).bind ?_))
  exact (leads_write _ _).bind ((leads_write _ _).bind (leads_write _ _))

theorem leads_addition_error (h : Numeral.toInt64? (a.toInt + b.toInt) = none) :
    Leads (addition a b) s (.error (overflowFault ⟨5, 21⟩)) s :=
  (leads_exact_error h).bind_error

theorem leads_division (hb : b ≠ 0) (h : Numeral.toInt64? (a.toInt.tdiv b.toInt) = some n) :
    Leads (division a b) s (.ok ()) ((s.say (Value.integer n).display).say "\n") := by
  have hquotient : Leads (quotient a b ⟨5, 11⟩) s (.ok n) s := by
    rw [quotient, if_neg hb]
    exact leads_exact h
  exact hquotient.bind ((leads_write _ _).bind (leads_write _ _))

theorem leads_division_zero (a : Int64) (s : Recital) : Leads (division a 0) s
    (.error (.runtime (RuntimeFault.divisionByZero.place ⟨5, 11⟩))) s :=
  (leads_fail _ s).bind_error

theorem leads_division_error (hb : b ≠ 0)
    (h : Numeral.toInt64? (a.toInt.tdiv b.toInt) = none) :
    Leads (division a b) s (.error (overflowFault ⟨5, 11⟩)) s := by
  have hquotient : Leads (quotient a b ⟨5, 11⟩) s (.error (overflowFault ⟨5, 11⟩)) s := by
    rw [quotient, if_neg hb]
    exact leads_exact_error h
  exact hquotient.bind_error

/-! ## The two demos -/

/-- The scalars are declared. -/
def declare (s : Recital) (count : ℕ) : Recital :=
  { s with snapshot := s.snapshot.applyAll ((List.range count).map .declareScalar) }

theorem leads_sumRoutine {args : List String}
    (hargs : Leads (twoIntegers args) (declare s 3) (.ok given) (declare s 3))
    (h : Leads (withOperands given addition) (declare s 3) x s') :
    Leads (sumRoutine args) s x s' := by
  rw [sumRoutine_eq]
  refine (leads_declareScalar _ s).bind
    ((leads_declareScalar _ _).bind ((leads_declareScalar _ _).bind ?_))
  exact Leads.bind (by exact hargs) h

theorem leads_sumRoutine_error {args : List String}
    (hargs : Leads (twoIntegers args) (declare s 3) (.error f) (declare s 3)) :
    Leads (sumRoutine args) s (.error f) (declare s 3) := by
  rw [sumRoutine_eq]
  refine (leads_declareScalar _ s).bind
    ((leads_declareScalar _ _).bind ((leads_declareScalar _ _).bind ?_))
  exact Leads.bind_error (by exact hargs)

theorem leads_divideRoutine (h : Leads (withOperands none division) (declare s 2) x s') :
    Leads divideRoutine s x s' := by
  rw [divideRoutine_eq]
  exact (leads_declareScalar _ s).bind ((leads_declareScalar _ _).bind h)

end Demo

end RunControl
