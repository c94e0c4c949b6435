import Mathlib.Algebra.Order.Field.Power
import Mathlib.Algebra.Order.Field.Rat
import Mathlib.Data.Nat.Log
import Mathlib.Tactic.Linarith
import Mathlib.Tactic.NormNum
import Mathlib.Tactic.Positivity
import Mathlib.Tactic.Ring
import RunControl.Binary64

/-!
# The real nearest to an integer

A finite real denotes a rational number. Few integers of more than 53 binary digits are such
numbers; the conversion takes an integer to the closest one that is.

* `number`: what a finite real denotes, and `number_ofMagnitude`: what is denoted by given bits;
* `divideToEven_nearest`: a rounded quotient gives the nearest multiple;
* `number_ofInt`: an integer is rounded to a multiple of its `spacing`;
* **`ofInt_nearest`**: no finite real is closer to the integer than its conversion;
* **`number_ofInt_eq_iff`**: the conversion loses nothing exactly when the integer `Fits`.
-/

namespace RunControl.Binary64

/-! ## What a real denotes -/

/-- A rational number with the given sign. -/
def signed (negative : Bool) (q : ℚ) : ℚ := if negative then -q else q

/-- The number that a finite real denotes. -/
def number (x : Binary64) : ℚ := signed x.isNegative (x.significand * 2 ^ x.exponent)

theorem signed_natAbs (n : ℤ) : signed (decide (n < 0)) n.natAbs = n := by
  rw [signed, Nat.cast_natAbs]
  split_ifs with h
  · rw [abs_of_neg (of_decide_eq_true h), Int.cast_neg, neg_neg]
  · rw [abs_of_nonneg (le_of_not_gt fun hn => h (decide_eq_true hn))]

theorem abs_signed (negative : Bool) (q : ℚ) : |signed negative q| = |q| := by
  cases negative
  · rfl
  · exact abs_neg q

theorem abs_signed_sub (negative : Bool) (p q : ℚ) :
    |signed negative p - signed negative q| = |p - q| := by
  cases negative
  · rfl
  · change |(-p) - (-q)| = |p - q|
    rw [neg_sub_neg, abs_sub_comm]

/-- The three fields of a number given by its exponent bits and its fraction bits. -/
theorem fields_ofMagnitude (negative : Bool) {e f : ℕ} (he : e < 2048) (hf : f < hiddenBit) :
    (ofMagnitude negative (e * hiddenBit + f)).isNegative = negative ∧
      (ofMagnitude negative (e * hiddenBit + f)).exponentField = e ∧
      (ofMagnitude negative (e * hiddenBit + f)).fractionField = f := by
  have hhidden : hiddenBit = 4503599627370496 := rfl
  have hsign : signBit = 9223372036854775808 := rfl
  have hbits : (ofMagnitude negative (e * hiddenBit + f)).bits.toNat =
      if negative then signBit + (e * hiddenBit + f) else e * hiddenBit + f := by
    rw [ofMagnitude, UInt64.toNat_ofNat']
    refine Nat.mod_eq_of_lt ?_
    rw [hhidden, hsign]
    split_ifs <;> omega
  rw [isNegative, exponentField, fractionField, hbits, hhidden, hsign]
  cases negative
  · rw [if_neg Bool.false_ne_true, beq_eq_false_iff_ne]
    omega
  · rw [if_pos rfl, beq_iff_eq]
    omega

/-- A significand that has just been rounded may be twice the hidden bit: it is carried into the
exponent. -/
theorem number_ofMagnitude (negative : Bool) {j m : ℕ} (hj : j < 2045) (hlow : hiddenBit ≤ m)
    (hhigh : m ≤ 2 * hiddenBit) :
    (ofMagnitude negative (j * hiddenBit + m)).isFinite = true ∧
      number (ofMagnitude negative (j * hiddenBit + m)) =
        signed negative (m * 2 ^ ((j : ℤ) - 1074)) := by
  have hpos : 0 < hiddenBit := by decide
  rcases hhigh.lt_or_eq with hlt | rfl
  · obtain ⟨f, rfl⟩ := Nat.exists_eq_add_of_le hlow
    obtain ⟨hneg, hexp, hfrac⟩ := fields_ofMagnitude negative (e := j + 1) (f := f)
      (by omega) (by omega)
    rw [show j * hiddenBit + (hiddenBit + f) = (j + 1) * hiddenBit + f by ring]
    refine ⟨by rw [isFinite, hexp, bne_iff_ne]; omega, ?_⟩
    rw [number, significand, exponent, hneg, hexp, hfrac, if_neg (Nat.succ_ne_zero j),
      if_neg (Nat.succ_ne_zero j)]
    congr 3
    push_cast
    ring
  · obtain ⟨hneg, hexp, hfrac⟩ := fields_ofMagnitude negative (e := j + 2) (f := 0)
      (by omega) hpos
    rw [show j * hiddenBit + 2 * hiddenBit = (j + 2) * hiddenBit + 0 by ring]
    refine ⟨by rw [isFinite, hexp, bne_iff_ne]; omega, ?_⟩
    rw [number, significand, exponent, hneg, hexp, hfrac, if_neg (Nat.succ_ne_zero _),
      if_neg (Nat.succ_ne_zero _)]
    congr 1
    rw [show ((j + 2 : ℕ) : ℤ) - 1075 = 1 + ((j : ℤ) - 1074) by push_cast; ring,
      zpow_add₀ two_ne_zero, zpow_one]
    push_cast
    ring

/-! ## Rounded division -/

/-- **No multiple of the divisor is closer than the rounded quotient.** -/
theorem divideToEven_nearest (a d j : ℕ) :
    |((divideToEven a d * d : ℕ) : ℤ) - a| ≤ |((j * d : ℕ) : ℤ) - a| := by
  rcases Nat.eq_zero_or_pos d with rfl | hd
  · rw [Nat.mul_zero, Nat.mul_zero]
  have hsplit : a / d * d + a % d = a := Nat.div_add_mod' a d
  have hrest : a % d < d := Nat.mod_lt a hd
  have hround : (divideToEven a d * d = a / d * d ∧ 2 * (a % d) ≤ d) ∨
      (divideToEven a d * d = a / d * d + d ∧ d ≤ 2 * (a % d)) := by
    rw [divideToEven]
    split_ifs with hbelow habove
    · exact .inl ⟨rfl, hbelow.le⟩
    · exact .inr ⟨Nat.succ_mul _ _, habove.le⟩
    · rcases Nat.mod_two_eq_zero_or_one (a / d) with heven | hodd
      · exact .inl ⟨by rw [heven, Nat.add_zero], le_of_not_gt habove⟩
      · exact .inr ⟨by rw [hodd, Nat.succ_mul], le_of_not_gt hbelow⟩
  have hmultiple : j * d ≤ a / d * d ∨ a / d * d + d ≤ j * d := by
    rcases Nat.lt_or_ge (a / d) j with hlt | hle
    · exact .inr (by rw [← Nat.succ_mul]; exact Nat.mul_le_mul_right d hlt)
    · exact .inl (Nat.mul_le_mul_right d hle)
  rw [Int.abs_eq_natAbs, Int.abs_eq_natAbs]
  omega

theorem divideToEven_mul_of_dvd {a d : ℕ} (h : d ∣ a) : divideToEven a d * d = a := by
  obtain ⟨j, rfl⟩ := h
  have := divideToEven_nearest (d * j) d j
  rw [Nat.mul_comm j d, sub_self, abs_zero, abs_nonpos_iff, sub_eq_zero] at this
  exact Int.natCast_inj.1 this

theorem divideToEven_one (a : ℕ) : divideToEven a 1 = a := by
  rw [← Nat.mul_one (divideToEven a 1), divideToEven_mul_of_dvd (one_dvd a)]

theorem divideToEven_mem {a d low high : ℕ} (hd : 0 < d) (hlow : low * d ≤ a)
    (hhigh : a < high * d) : low ≤ divideToEven a d ∧ divideToEven a d ≤ high := by
  have hle : low ≤ a / d := (Nat.le_div_iff_mul_le hd).2 hlow
  have hlt : a / d < high := (Nat.div_lt_iff_lt_mul hd).2 hhigh
  rw [divideToEven]
  split_ifs <;> omega

/-! ## The conversion of an integer -/

/-- The place of the last of the 53 binary digits of a number, which is the distance between the
reals around it; a shorter number is kept whole. -/
def spacing (a : ℕ) : ℕ := 2 ^ (a.log2 - 52)

theorem spacing_eq_one {a : ℕ} (h : a.log2 ≤ 52) : spacing a = 1 := by
  rw [spacing, Nat.sub_eq_zero_of_le h, pow_zero]

theorem spacing_eq_zpow {a : ℕ} (h : 52 ≤ a.log2) :
    (spacing a : ℚ) = 2 ^ ((a.log2 : ℤ) - 52) := by
  rw [spacing, Nat.cast_pow, Nat.cast_ofNat, ← zpow_natCast, Nat.cast_sub h]
  rfl

theorem hiddenBit_mul_spacing (a : ℕ) :
    hiddenBit * spacing a = 2 ^ a.log2 * 2 ^ (52 - a.log2) := by
  rw [spacing, show hiddenBit = 2 ^ 52 from rfl, ← pow_add, ← pow_add]
  congr 1
  omega

theorem twoPower_sub (i j : ℕ) : twoPower ((i : ℤ) - j) = (2 ^ (i - j), 2 ^ (j - i)) := by
  rw [twoPower, neg_sub, Int.toNat_sub, Int.toNat_sub]
  rfl

theorem floorLog2_one {a : ℕ} (h : a ≠ 0) : floorLog2 a 1 = a.log2 := by
  have hone : Nat.log2 1 = 0 := rfl
  rw [floorLog2, hone, twoPower_sub]
  dsimp only
  rw [if_pos, Nat.cast_zero, sub_zero]
  rw [Nat.sub_zero, Nat.zero_sub, pow_zero, one_mul, mul_one]
  exact Nat.log2_self_le h

variable {n : ℤ}

/-- The significand of an integer before it is rounded, as a quotient, has 53 binary digits. -/
theorem divideToEven_spacing_mem {a : ℕ} (h : a ≠ 0) :
    hiddenBit ≤ divideToEven (a * 2 ^ (52 - a.log2)) (spacing a) ∧
      divideToEven (a * 2 ^ (52 - a.log2)) (spacing a) ≤ 2 * hiddenBit := by
  refine divideToEven_mem (Nat.two_pow_pos _) ?_ ?_
  · rw [hiddenBit_mul_spacing]
    exact Nat.mul_le_mul_right _ (Nat.log2_self_le h)
  · rw [Nat.mul_assoc, hiddenBit_mul_spacing, ← Nat.mul_assoc, ← pow_succ']
    exact Nat.mul_lt_mul_of_pos_right Nat.lt_log2_self (Nat.two_pow_pos _)

theorem ofInt_eq (hn : n ≠ 0) (hsize : n.natAbs.log2 < 1023) :
    ofInt n = ofMagnitude (decide (n < 0)) ((n.natAbs.log2 + 1022) * hiddenBit +
      divideToEven (n.natAbs * 2 ^ (52 - n.natAbs.log2)) (spacing n.natAbs)) := by
  have hne : n.natAbs ≠ 0 := Int.natAbs_ne_zero.2 hn
  have hplace : max (-1074) ((n.natAbs.log2 : ℤ) - 52) = n.natAbs.log2 - (52 : ℕ) :=
    max_eq_right (by omega)
  have hstored : ((n.natAbs.log2 : ℤ) - (52 : ℕ) + 1074).toNat = n.natAbs.log2 + 1022 := by omega
  have hbound := (divideToEven_spacing_mem hne).2
  rw [ofInt, ofRatio, if_neg (not_or.2 ⟨hne, one_ne_zero⟩), floorLog2_one hne, hplace]
  dsimp only
  rw [twoPower_sub, hstored]
  dsimp only
  rw [one_mul, ← spacing, min_eq_right]
  have hinfinity : infinityBits = 2047 * 4503599627370496 := rfl
  have hhidden : hiddenBit = 4503599627370496 := rfl
  rw [hhidden] at hbound ⊢
  omega

/-- **An integer is rounded to a multiple of its spacing.** -/
theorem number_ofInt (hsize : n.natAbs.log2 < 1023) :
    (ofInt n).isFinite = true ∧ number (ofInt n) =
      signed (decide (n < 0))
        (divideToEven n.natAbs (spacing n.natAbs) * spacing n.natAbs : ℕ) := by
  rcases eq_or_ne n 0 with rfl | hn
  · have hzero : (ofInt 0).significand = 0 := by decide
    have hround :
        divideToEven (0 : ℤ).natAbs (spacing (0 : ℤ).natAbs) * spacing (0 : ℤ).natAbs = 0 := by
      decide
    refine ⟨by decide, ?_⟩
    rw [number, hzero, hround, Nat.cast_zero, zero_mul]
    rfl
  obtain ⟨hlow, hhigh⟩ := divideToEven_spacing_mem (Int.natAbs_ne_zero.2 hn)
  rw [ofInt_eq hn hsize]
  obtain ⟨hfinite, hnumber⟩ := number_ofMagnitude (decide (n < 0)) (j := n.natAbs.log2 + 1022)
    (by omega) hlow hhigh
  refine ⟨hfinite, hnumber.trans (congrArg _ ?_)⟩
  have hexp : ((n.natAbs.log2 + 1022 : ℕ) : ℤ) - 1074 = n.natAbs.log2 - 52 := by omega
  rw [hexp]
  rcases Nat.le_total n.natAbs.log2 52 with hshort | hlong
  · rw [spacing_eq_one hshort, divideToEven_one, divideToEven_one, mul_one, Nat.cast_mul, mul_assoc]
    have hcancel : ((2 ^ (52 - n.natAbs.log2) : ℕ) : ℚ) * 2 ^ ((n.natAbs.log2 : ℤ) - 52) = 1 := by
      rw [Nat.cast_pow, Nat.cast_ofNat, ← zpow_natCast, ← zpow_add₀ two_ne_zero,
        Nat.cast_sub hshort]
      norm_num
    rw [hcancel, mul_one]
  · rw [Nat.sub_eq_zero_of_le hlong, pow_zero, mul_one, ← spacing_eq_zpow hlong, Nat.cast_mul]

theorem abs_number_ofInt_sub (hsize : n.natAbs.log2 < 1023) :
    |number (ofInt n) - n| =
      |((divideToEven n.natAbs (spacing n.natAbs) * spacing n.natAbs : ℕ) : ℚ) - n.natAbs| := by
  rw [← abs_signed_sub (decide (n < 0)) _ (n.natAbs : ℚ), ← (number_ofInt hsize).2, signed_natAbs]

/-! ## The nearest real -/

theorem significand_lt (x : Binary64) : x.significand < 2 * hiddenBit := by
  have hfraction : x.fractionField < hiddenBit := Nat.mod_lt _ (by decide)
  rw [significand]
  split_ifs <;> omega

theorem abs_number (x : Binary64) : |number x| = x.significand * 2 ^ x.exponent := by
  rw [number, abs_signed, abs_of_nonneg (by positivity)]

/-- A real that is no multiple of the spacing of an integer is small, and the integer is closer to a
multiple. -/
theorem exists_multiple_closer (a : ℕ) (y : Binary64) :
    ∃ j : ℕ, |((j * spacing a : ℕ) : ℚ) - a| ≤ |(|number y|) - a| := by
  rcases Nat.lt_or_ge a.log2 52 with hshort | hlong
  · refine ⟨a, ?_⟩
    rw [spacing_eq_one hshort.le, mul_one, sub_self, abs_zero]
    exact abs_nonneg _
  have hne : a ≠ 0 := by
    rintro rfl
    exact absurd hlong (by decide)
  rcases le_or_gt ((a.log2 : ℤ) - 52) y.exponent with hcoarse | hfine
  · obtain ⟨i, hi⟩ := Int.exists_add_of_le hcoarse
    refine ⟨y.significand * 2 ^ i, le_of_eq ?_⟩
    rw [abs_number, hi, zpow_add₀ two_ne_zero, zpow_natCast, ← spacing_eq_zpow hlong]
    push_cast
    ring_nf
  · have hbelow : |number y| ≤ (hiddenBit * spacing a : ℕ) := by
      have hsig : (y.significand : ℚ) ≤ 2 * hiddenBit := by exact_mod_cast y.significand_lt.le
      have hpow : (2 : ℚ) * 2 ^ y.exponent ≤ spacing a := by
        rw [spacing_eq_zpow hlong, ← zpow_one_add₀ two_ne_zero]
        exact zpow_le_zpow_right₀ one_le_two (by omega)
      rw [abs_number, Nat.cast_mul]
      calc (y.significand : ℚ) * 2 ^ y.exponent ≤ 2 * hiddenBit * 2 ^ y.exponent := by gcongr
        _ = hiddenBit * (2 * 2 ^ y.exponent) := by ring
        _ ≤ hiddenBit * spacing a := by gcongr
    have habove : ((hiddenBit * spacing a : ℕ) : ℚ) ≤ a := by
      rw [hiddenBit_mul_spacing, Nat.sub_eq_zero_of_le hlong, pow_zero, mul_one]
      exact_mod_cast Nat.log2_self_le hne
    refine ⟨hiddenBit, ?_⟩
    rw [abs_sub_comm, abs_of_nonneg (sub_nonneg.2 habove), abs_sub_comm,
      abs_of_nonneg (sub_nonneg.2 (hbelow.trans habove))]
    exact sub_le_sub_left hbelow _

/-- **No real is closer to an integer than the one it is converted to.** -/
theorem ofInt_nearest (hsize : n.natAbs.log2 < 1023) (y : Binary64) :
    |number (ofInt n) - n| ≤ |number y - n| := by
  obtain ⟨j, hj⟩ := exists_multiple_closer n.natAbs y
  calc |number (ofInt n) - n|
      = |((divideToEven n.natAbs (spacing n.natAbs) * spacing n.natAbs : ℕ) : ℚ) - n.natAbs| :=
        abs_number_ofInt_sub hsize
    _ ≤ |((j * spacing n.natAbs : ℕ) : ℚ) - n.natAbs| := by
        exact_mod_cast divideToEven_nearest n.natAbs (spacing n.natAbs) j
    _ ≤ |(|number y|) - n.natAbs| := hj
    _ ≤ |number y - n| := by
        rw [Nat.cast_natAbs, Int.cast_abs]
        exact abs_abs_sub_abs_le _ _

/-! ## The integers that are kept -/

/-- The integer has at most 53 binary digits, and any number of zeros after them. -/
def Fits (n : ℤ) : Prop := ∃ m e : ℕ, m < 2 ^ 53 ∧ n.natAbs = m * 2 ^ e

theorem spacing_dvd_iff : spacing n.natAbs ∣ n.natAbs ↔ Fits n := by
  constructor
  · rintro ⟨m, hm⟩
    refine ⟨m, n.natAbs.log2 - 52, ?_, by rw [mul_comm, ← spacing, ← hm]⟩
    refine Nat.lt_of_mul_lt_mul_left (a := spacing n.natAbs) ?_
    calc spacing n.natAbs * m = n.natAbs := hm.symm
      _ < 2 ^ (n.natAbs.log2 + 1) := Nat.lt_log2_self
      _ ≤ 2 ^ (n.natAbs.log2 - 52 + 53) := Nat.pow_le_pow_right Nat.two_pos (by omega)
      _ = spacing n.natAbs * 2 ^ 53 := pow_add _ _ _
  · rintro ⟨m, e, hm, hn⟩
    rcases eq_or_ne n.natAbs 0 with hzero | hne
    · rw [hzero]
      exact dvd_zero _
    have hlog : n.natAbs.log2 < 53 + e := by
      rw [Nat.log2_lt hne, hn, pow_add]
      exact Nat.mul_lt_mul_of_pos_right hm (Nat.two_pow_pos e)
    have hunit : spacing n.natAbs ∣ 2 ^ e := Nat.pow_dvd_pow 2 (by omega)
    rw [hn] at hunit ⊢
    exact hunit.mul_left m

/-- **A conversion loses nothing exactly when the integer fits.** -/
theorem number_ofInt_eq_iff (hsize : n.natAbs.log2 < 1023) : number (ofInt n) = n ↔ Fits n := by
  rw [← spacing_dvd_iff, ← sub_eq_zero, ← abs_eq_zero, abs_number_ofInt_sub hsize, abs_eq_zero,
    sub_eq_zero, Nat.cast_inj]
  exact ⟨fun h => ⟨_, h.symm.trans (Nat.mul_comm _ _)⟩, divideToEven_mul_of_dvd⟩

end RunControl.Binary64
