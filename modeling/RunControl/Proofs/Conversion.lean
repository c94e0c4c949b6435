import RunControl.Proofs.Nearest
import RunControl.Value

/-!
# What a conversion keeps

A value is converted to the type that is asked for where nothing is meant to be lost: a character
becomes the text of it alone, and an integer the nearest real.

* `coerce_cases`: the three ways to convert;
* `Kept`: what the type asked for has no other value for; only long integers are not kept by a real;
* **`conversions`**: values of one type that are kept stay apart, a conversion gives a value of the
  type asked for, and conversions one after the other give what a single one gives;
* `merged_integers`: two integers that become one real.
-/

namespace RunControl.Value

open Binary64 (ofInt number Fits)

variable {v w p q : Value} {t : DataType} {n m : Int64}

/-! ## The ways to convert -/

theorem coerce_cases (h : v.coerce t = some w) :
    (v.type = t ∧ w = v) ∨
      (∃ n, v = integer n ∧ t = .real ∧ w = real (ofInt n.toInt)) ∨
      (∃ c, v = character c ∧ t = .text ∧ w = text (String.singleton c)) := by
  unfold coerce at h
  split_ifs at h with htype
  · exact .inl ⟨htype, (Option.some.inj h).symm⟩
  · split at h
    · exact .inr (.inl ⟨_, rfl, rfl, (Option.some.inj h).symm⟩)
    · exact .inr (.inr ⟨_, rfl, rfl, (Option.some.inj h).symm⟩)
    · cases h

theorem coerce_self (v : Value) : v.coerce v.type = some v := if_pos rfl

theorem type_of_coerce (h : v.coerce t = some w) : w.type = t := by
  obtain ⟨htype, rfl⟩ | ⟨n, -, rfl, rfl⟩ | ⟨c, -, rfl, rfl⟩ := coerce_cases h
  · exact htype
  · rfl
  · rfl

theorem coerce_again (h : v.coerce t = some w) : w.coerce t = some w := by
  rw [← type_of_coerce h]
  exact coerce_self w

theorem isSome_coerce_iff : (v.coerce t).isSome = true ↔
    v.type = t ∨ (v.type = .integer ∧ t = .real) ∨ (v.type = .character ∧ t = .text) := by
  constructor
  · intro h
    obtain ⟨w, hw⟩ := Option.isSome_iff_exists.1 h
    obtain ⟨htype, -⟩ | ⟨n, rfl, rfl, -⟩ | ⟨c, rfl, rfl, -⟩ := coerce_cases hw
    · exact .inl htype
    · exact .inr (.inl ⟨rfl, rfl⟩)
    · exact .inr (.inr ⟨rfl, rfl⟩)
  · rintro (rfl | ⟨hv, rfl⟩ | ⟨hv, rfl⟩)
    · rw [coerce_self]
      rfl
    · cases v <;> cases hv
      rfl
    · cases v <;> cases hv
      rfl

/-- What a conversion gives is of a type that converts to no other, so a second one changes
nothing. -/
theorem coerce_trans {s : DataType} (hv : v.coerce s = some w) (hw : w.coerce t = some p) :
    v.coerce t = some p := by
  obtain ⟨-, rfl⟩ | ⟨n, rfl, rfl, rfl⟩ | ⟨c, rfl, rfl, rfl⟩ := coerce_cases hv
  · exact hw
  · obtain ⟨rfl, rfl⟩ | ⟨_, ⟨⟩, -⟩ | ⟨_, ⟨⟩, -⟩ := coerce_cases hw
    exact hv
  · obtain ⟨rfl, rfl⟩ | ⟨_, ⟨⟩, -⟩ | ⟨_, ⟨⟩, -⟩ := coerce_cases hw
    exact hv

theorem coerce_chain {ts : List DataType} (h : (ts ++ [t]).foldlM coerce v = some p) :
    v.coerce t = some p := by
  induction ts generalizing v with
  | nil =>
    rw [List.nil_append, List.foldlM_cons] at h
    obtain ⟨w, hw, hp⟩ := Option.bind_eq_some_iff.1 h
    rw [hw]
    exact hp
  | cons s ts ih =>
    rw [List.cons_append, List.foldlM_cons] at h
    obtain ⟨w, hw, hp⟩ := Option.bind_eq_some_iff.1 h
    exact coerce_trans hw (ih hp)

theorem coerce_pair (htype : v.type = w.type) (hv : v.coerce t = some p)
    (hw : w.coerce t = some q) :
    (p = v ∧ q = w) ∨
      (∃ n m, v = integer n ∧ w = integer m ∧ t = .real ∧
        p = real (ofInt n.toInt) ∧ q = real (ofInt m.toInt)) ∨
      (∃ c d, v = character c ∧ w = character d ∧
        p = text (String.singleton c) ∧ q = text (String.singleton d)) := by
  obtain ⟨rfl, rfl⟩ | ⟨n, rfl, rfl, rfl⟩ | ⟨c, rfl, rfl, rfl⟩ := coerce_cases hv
  · rw [htype, coerce_self] at hw
    exact .inl ⟨rfl, (Option.some.inj hw).symm⟩
  · obtain ⟨hreal, -⟩ | ⟨m, rfl, -, rfl⟩ | ⟨d, -, ⟨⟩, -⟩ := coerce_cases hw
    · cases htype.trans hreal
    · exact .inr (.inl ⟨n, m, rfl, rfl, rfl, rfl, rfl⟩)
  · obtain ⟨htext, -⟩ | ⟨m, -, ⟨⟩, -⟩ | ⟨d, rfl, -, rfl⟩ := coerce_cases hw
    · cases htype.trans htext
    · exact .inr (.inr ⟨c, d, rfl, rfl, rfl, rfl⟩)

/-! ## What is kept -/

theorem log2_toInt_lt (n : Int64) : n.toInt.natAbs.log2 < 1023 := by
  have hlow := n.le_toInt
  have hhigh := n.toInt_lt
  refine lt_of_lt_of_le ?_ (show 64 ≤ 1023 by decide)
  rcases eq_or_ne n.toInt.natAbs 0 with hzero | hne
  · rw [hzero]
    decide
  · rw [Nat.log2_lt hne]
    omega

theorem number_eq_of_equals {x y : Binary64} (h : x.equals y = true) : number x = number y := by
  have hzero {z : Binary64} (hz : z.isZero = true) : number z = 0 := by
    rw [Binary64.isZero, Bool.and_eq_true, beq_iff_eq, beq_iff_eq] at hz
    rw [number, Binary64.significand, if_pos hz.1, hz.2, Nat.cast_zero, zero_mul, Binary64.signed,
      neg_zero, ite_self]
  simp only [Binary64.equals, Bool.and_eq_true, Bool.or_eq_true] at h
  rcases h.2 with hbits | ⟨hx, hy⟩
  · rw [show x = y from congrArg Binary64.mk (beq_iff_eq.1 hbits)]
  · rw [hzero hx, hzero hy]

/-- The type has a value for this one alone. An integer is kept by a real if it has at most 53
binary digits, and zeros after them. -/
def Kept (v : Value) (t : DataType) : Prop := ∀ n, v = integer n → t = .real → Fits n.toInt

theorem integer_eq_of_number_eq (hn : Fits n.toInt) (hm : Fits m.toInt)
    (h : number (ofInt n.toInt) = number (ofInt m.toInt)) : n = m := by
  rw [(Binary64.number_ofInt_eq_iff (log2_toInt_lt n)).2 hn,
    (Binary64.number_ofInt_eq_iff (log2_toInt_lt m)).2 hm, Int.cast_inj] at h
  exact Int64.toInt_inj.1 h

/-- The conversion of an integer, and how much it keeps. -/
structure Widened (n : Int64) (x : Binary64) : Prop where
  isFinite : x.isFinite = true
  nearest : ∀ y : Binary64, y.isFinite = true → |number x - n.toInt| ≤ |number y - n.toInt|
  exact_iff : number x = n.toInt ↔ Fits n.toInt

/-- What becomes of a value when the type is asked for: which values convert, that conversions one
after the other give what the last one gives at once, and that values of one type which are kept
stay apart, also if they are compared as a program compares them. -/
structure Conversions (v : Value) (t : DataType) : Prop where
  isSome_iff : (v.coerce t).isSome = true ↔
    v.type = t ∨ (v.type = .integer ∧ t = .real) ∨ (v.type = .character ∧ t = .text)
  type_eq : ∀ p, v.coerce t = some p → p.type = t
  again : ∀ p, v.coerce t = some p → p.coerce t = some p
  chain : ∀ ts p, (ts ++ [t]).foldlM coerce v = some p → v.coerce t = some p
  of_character : ∀ c, v = character c → t = .text →
    ∃ s : String, v.coerce t = some (text s) ∧ s.toList = [c]
  of_integer : ∀ n, v = integer n → t = .real → ∃ x, v.coerce t = some (real x) ∧ Widened n x
  lossless : ∀ w p, v.type = w.type → Kept v t → Kept w t →
    v.coerce t = some p → w.coerce t = some p → v = w
  lossless_equals : ∀ w p q, v.type = w.type → Kept v t → Kept w t →
    v.coerce t = some p → w.coerce t = some q → p.equals q = true → v.equals w = true

/-- **A conversion loses nothing but the low digits of long integers.** -/
theorem conversions (v : Value) (t : DataType) : Conversions v t where
  isSome_iff := isSome_coerce_iff
  type_eq _ := type_of_coerce
  again _ := coerce_again
  chain _ _ := coerce_chain
  of_character c hv ht := by
    subst hv ht
    exact ⟨_, rfl, String.toList_singleton c⟩
  of_integer n hv ht := by
    subst hv ht
    exact ⟨_, rfl, (Binary64.number_ofInt (log2_toInt_lt n)).1,
      fun y _ => Binary64.ofInt_nearest (log2_toInt_lt n) y,
      Binary64.number_ofInt_eq_iff (log2_toInt_lt n)⟩
  lossless w p htype hkeptv hkeptw hv hw := by
    obtain ⟨rfl, rfl⟩ | ⟨n, m, rfl, rfl, rfl, rfl, heq⟩ | ⟨c, d, rfl, rfl, rfl, heq⟩ :=
      coerce_pair htype hv hw
    · rfl
    · have hbits := real.inj heq
      rw [integer_eq_of_number_eq (hkeptv n rfl rfl) (hkeptw m rfl rfl) (congrArg number hbits)]
    · rw [String.singleton_inj.1 (text.inj heq)]
  lossless_equals w p q htype hkeptv hkeptw hv hw h := by
    obtain ⟨rfl, rfl⟩ | ⟨n, m, rfl, rfl, rfl, rfl, rfl⟩ | ⟨c, d, rfl, rfl, rfl, rfl⟩ :=
      coerce_pair htype hv hw
    · exact h
    · rw [integer_eq_of_number_eq (hkeptv n rfl rfl) (hkeptw m rfl rfl) (number_eq_of_equals h)]
      exact beq_self_eq_true _
    · rw [String.singleton_inj.1 (text.inj (eq_of_beq h))]
      exact beq_self_eq_true _

/-- Two integers of 54 binary digits become one real. -/
theorem merged_integers :
    ∃ p, (integer 9007199254740993).coerce .real = some p ∧
      (integer 9007199254740992).coerce .real = some p ∧
      (integer 9007199254740993).type = (integer 9007199254740992).type ∧
      integer 9007199254740993 ≠ integer 9007199254740992 :=
  ⟨real ⟨0x4340000000000000⟩, by decide +kernel, by decide +kernel, rfl, by decide +kernel⟩

end RunControl.Value
