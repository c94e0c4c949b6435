import Mathlib.Data.Nat.Digits.Defs
import RunControl.Numeral

/-!
# Numerals and what they denote

A grammar of numerals that says nothing about reading: a row of digits denotes the sum of its digits
times powers of ten, with any number of zeros in front, and a sign may stand before it.

* `Natural`, `Unsigned`, `Signed`: the numerals of natural numbers, with an optional plus, and of
  integers with an optional sign;
* `natural?_eq_some_iff`, `unsigned?_eq_some_iff`, `signed?_eq_some_iff`: the readers accept these
  numerals and no other text;
* **`int64?_eq_some_iff`**, **`uint32?_eq_some_iff`**: a reader of a fixed width answers with the
  number that is denoted, or refuses it: nothing wraps;
* `natural_digits`, `signed_intDigits`: what is written is such a numeral.
-/

namespace RunControl.Numeral

/-! ## The grammar -/

/-- One or more digits that denote `n` in base ten, the most significant first. -/
structure Natural (s : List Char) (n : ℕ) : Prop where
  ne_nil : s ≠ []
  isDigit : ∀ c ∈ s, c.isDigit = true
  value : Nat.ofDigits 10 (s.reverse.map digitValue) = n

/-- Digits, with or without a plus before them. -/
inductive Unsigned : List Char → ℕ → Prop
  | bare {s : List Char} {n : ℕ} (h : Natural s n) : Unsigned s n
  | plus {s : List Char} {n : ℕ} (h : Natural s n) : Unsigned ('+' :: s) n

/-- Digits, with or without a sign before them. -/
inductive Signed : List Char → ℤ → Prop
  | bare {s : List Char} {n : ℕ} (h : Natural s n) : Signed s n
  | plus {s : List Char} {n : ℕ} (h : Natural s n) : Signed ('+' :: s) n
  | minus {s : List Char} {n : ℕ} (h : Natural s n) : Signed ('-' :: s) (-n)

variable {s : List Char} {n : ℕ} {z : ℤ}

theorem Natural.ne_cons {c : Char} {rest : List Char} (h : Natural s n) (hc : c.isDigit = false) :
    s ≠ c :: rest := by
  rintro rfl
  exact absurd (h.isDigit c List.mem_cons_self) (by rw [hc]; decide)

/-! ## Reading -/

theorem ofDigits_eq (s : List Char) : ofDigits s = Nat.ofDigitChars 10 s 0 := by
  simp only [ofDigits, Nat.ofDigitChars, digitValue, Nat.mul_comm]

theorem ofDigits_eq_sum (s : List Char) :
    ofDigits s = Nat.ofDigits 10 (s.reverse.map digitValue) := by
  rw [ofDigits, List.foldl_eq_foldr_reverse, Nat.ofDigits_eq_foldr, List.foldr_map]
  congr 1
  funext c n
  rw [Nat.cast_id, Nat.add_comm, Nat.mul_comm]

theorem natural?_eq_some_iff : natural? s = some n ↔ Natural s n := by
  rw [natural?, ofDigits_eq_sum]
  split
  next hbad =>
    refine iff_of_false nofun fun h => ?_
    rw [Bool.or_eq_true, List.isEmpty_iff, Bool.not_eq_true'] at hbad
    rcases hbad with hnil | hall
    · exact h.ne_nil hnil
    · rw [List.all_eq_true.2 h.isDigit] at hall
      exact Bool.noConfusion hall
  next hgood =>
    rw [Bool.or_eq_true, List.isEmpty_iff, Bool.not_eq_true', not_or, Bool.not_eq_false] at hgood
    rw [Option.some.injEq]
    exact ⟨fun h => ⟨hgood.1, List.all_eq_true.1 hgood.2, h⟩, fun h => h.value⟩

theorem unsigned?_eq_some_iff : unsigned? s = some n ↔ Unsigned s n := by
  constructor
  · intro h
    rw [unsigned?.eq_def] at h
    split at h
    · exact .plus (natural?_eq_some_iff.1 h)
    · exact .bare (natural?_eq_some_iff.1 h)
  · rintro (h | h)
    · rw [unsigned?]
      · exact natural?_eq_some_iff.2 h
      · exact fun _ => h.ne_cons rfl
    · exact natural?_eq_some_iff.2 h

theorem signed?_eq_some_iff : signed? s = some z ↔ Signed s z := by
  constructor
  · intro h
    rw [signed?.eq_def] at h
    split at h
    all_goals
      obtain ⟨n, hn, rfl⟩ := Option.map_eq_some_iff.1 h
      have := natural?_eq_some_iff.1 hn
    · exact .plus this
    · exact .minus this
    · exact .bare this
  · rintro (h | h | h)
    · rw [signed?, natural?_eq_some_iff.2 h]
      · rfl
      · exact fun _ => h.ne_cons rfl
      · exact fun _ => h.ne_cons rfl
    · rw [signed?, natural?_eq_some_iff.2 h]
      rfl
    · rw [signed?, natural?_eq_some_iff.2 h]
      rfl

/-! ## Numbers of a fixed width -/

theorem toInt64?_toInt (n : Int64) : toInt64? n.toInt = some n := by
  rw [toInt64?, if_pos ⟨n.minValue_le_toInt, n.toInt_le⟩, Int64.ofInt_toInt]

theorem toInt64?_eq_some_iff {n : Int64} : toInt64? z = some n ↔ n.toInt = z := by
  constructor
  · intro h
    rw [toInt64?] at h
    split at h
    next hz =>
      obtain rfl := Option.some.inj h
      have hmin : Int64.minValue.toInt = -2 ^ 63 := by decide
      have hmax : Int64.maxValue.toInt = 2 ^ 63 - 1 := by decide
      exact Int64.toInt_ofInt_of_le (by omega) (by omega)
    next => cases h
  · rintro rfl
    exact toInt64?_toInt n

theorem exists_toInt_iff : (∃ n : Int64, n.toInt = z) ↔ -2 ^ 63 ≤ z ∧ z ≤ 2 ^ 63 - 1 := by
  constructor
  · rintro ⟨n, rfl⟩
    have := n.le_toInt
    have := n.toInt_lt
    omega
  · rintro ⟨hmin, hmax⟩
    exact ⟨Int64.ofInt z, Int64.toInt_ofInt_of_le hmin (by omega)⟩

theorem toUInt32?_eq_some_iff {m : UInt32} : toUInt32? n = some m ↔ m.toNat = n := by
  constructor
  · intro h
    rw [toUInt32?] at h
    split at h
    next hn =>
      obtain rfl := Option.some.inj h
      exact UInt32.toNat_ofNat_of_lt' hn
    next => cases h
  · rintro rfl
    rw [toUInt32?, if_pos m.toNat_lt, UInt32.ofNat_toNat]

/-- **A 64-bit integer is read from its numerals alone.** -/
theorem int64?_eq_some_iff {m : Int64} : int64? s = some m ↔ Signed s m.toInt := by
  rw [int64?, Option.bind_eq_some_iff]
  simp only [toInt64?_eq_some_iff, signed?_eq_some_iff]
  exact ⟨fun ⟨_, hz, hm⟩ => hm ▸ hz, fun h => ⟨_, h, rfl⟩⟩

/-- **A 32-bit natural number is read from its numerals alone.** -/
theorem uint32?_eq_some_iff {m : UInt32} : uint32? s = some m ↔ Unsigned s m.toNat := by
  rw [uint32?, Option.bind_eq_some_iff]
  simp only [toUInt32?_eq_some_iff, unsigned?_eq_some_iff]
  exact ⟨fun ⟨_, hn, hm⟩ => hm ▸ hn, fun h => ⟨_, h, rfl⟩⟩

/-! ## Writing -/

theorem isDigit_of_mem_digits {c : Char} (h : c ∈ digits n) : c.isDigit = true :=
  Nat.isDigit_of_mem_toDigits (by decide) (by decide) h

theorem digits_ne_nil (n : ℕ) : digits n ≠ [] := Nat.toDigits_ne_nil

/-- A number that is written in digits is denoted by them. -/
theorem natural_digits (n : ℕ) : Natural (digits n) n where
  ne_nil := digits_ne_nil n
  isDigit _ := isDigit_of_mem_digits
  value := by
    rw [← ofDigits_eq_sum, ofDigits_eq]
    exact Nat.ofDigitChars_ten_toDigits

theorem natural?_digits (n : ℕ) : natural? (digits n) = some n :=
  natural?_eq_some_iff.2 (natural_digits n)

theorem signed_intDigits (z : ℤ) : Signed (intDigits z) z := by
  cases z with
  | ofNat n => exact .bare (natural_digits n)
  | negSucc n => exact .minus (natural_digits (n + 1))

theorem exists_digits_eq_cons (n : ℕ) : ∃ c cs, digits n = c :: cs ∧ c.isDigit = true := by
  obtain ⟨c, cs, hcs⟩ := List.exists_cons_of_ne_nil (digits_ne_nil n)
  refine ⟨c, cs, hcs, isDigit_of_mem_digits (n := n) ?_⟩
  rw [hcs]
  exact List.mem_cons_self

theorem digitChar_ne_zero : ∀ n < 10, 0 < n → n.digitChar ≠ '0' := by decide

theorem digits_eq_cons {n : ℕ} (h : 0 < n) : ∃ c cs, digits n = c :: cs ∧ c ≠ '0' := by
  induction n using Nat.strong_induction_on with
  | h n ih =>
    by_cases hn : n < 10
    · exact ⟨n.digitChar, [], Nat.toDigits_of_lt_base hn, digitChar_ne_zero n hn h⟩
    · obtain ⟨c, cs, hcs, hc⟩ := ih (n / 10) (by omega) (by omega)
      refine ⟨c, cs ++ [(n % 10).digitChar], ?_, hc⟩
      rw [digits, Nat.toDigits_of_base_le (by decide) (by omega), ← digits, hcs]
      rfl

end RunControl.Numeral
