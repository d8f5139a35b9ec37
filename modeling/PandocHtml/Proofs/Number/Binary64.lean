import Mathlib.Algebra.Order.Field.Rat
import Mathlib.Tactic.NormNum
import PandocHtml.Number.Binary64

/-!
# Values of binary floating-point numbers

The bits of a number are its sign, exponent and fraction put together.  Two finite numbers of one
value have the same bits, or both are zeros; hence equality of numbers is equality of values.
-/

namespace PandocHtml.Binary64

/-! ### Fields -/

theorem biased_eq (x : Binary64) : x.biased = x.bits.toNat / 2 ^ 52 % 2 ^ 11 := by
  have hmask : (0x7FF : Nat) = 2 ^ 11 - 1 := by norm_num
  simp only [biased, UInt64.toNat_and, UInt64.toNat_shiftRight]
  show (x.bits.toNat >>> 52) &&& 0x7FF = _
  rw [hmask, Nat.and_two_pow_sub_one_eq_mod, Nat.shiftRight_eq_div_pow]

theorem fraction_eq (x : Binary64) : x.fraction = x.bits.toNat % 2 ^ 52 := by
  have hmask : (0xFFFFFFFFFFFFF : Nat) = 2 ^ 52 - 1 := by norm_num
  simp only [fraction, UInt64.toNat_and]
  show x.bits.toNat &&& 0xFFFFFFFFFFFFF = _
  rw [hmask, Nat.and_two_pow_sub_one_eq_mod]

theorem negative_iff (x : Binary64) : x.negative = true ↔ x.bits.toNat / 2 ^ 63 = 1 := by
  rw [negative, beq_iff_eq, ← UInt64.toNat_inj, UInt64.toNat_shiftRight]
  show x.bits.toNat >>> 63 = 1 ↔ _
  rw [Nat.shiftRight_eq_div_pow]

theorem fraction_lt (x : Binary64) : x.fraction < 2 ^ 52 := by
  rw [fraction_eq]
  exact Nat.mod_lt _ (by norm_num)

theorem eq_of_fields {x y : Binary64} (hs : x.negative = y.negative) (hb : x.biased = y.biased)
    (hf : x.fraction = y.fraction) : x = y := by
  have hsign : x.bits.toNat / 2 ^ 63 = 1 ↔ y.bits.toNat / 2 ^ 63 = 1 := by
    rw [← negative_iff, ← negative_iff, hs]
  rw [biased_eq, biased_eq] at hb
  rw [fraction_eq, fraction_eq] at hf
  have hx := x.bits.toNat_lt
  have hy := y.bits.toNat_lt
  have hn : x.bits.toNat = y.bits.toNat := by omega
  obtain ⟨bx⟩ := x
  obtain ⟨byy⟩ := y
  exact congrArg Binary64.mk (UInt64.toNat_inj.mp hn)

/-! ### Values -/

theorem ratio_eq (x : Binary64) : x.ratio
    = (if x.negative then -((x.significand * 2 ^ x.exponent.toNat : Nat) : Int)
        else ((x.significand * 2 ^ x.exponent.toNat : Nat) : Int),
      2 ^ (-x.exponent).toNat) := rfl

def isFinite (x : Binary64) : Bool := !x.isNaN && !x.isInfinite

def value (x : Binary64) : ℚ := (x.ratio.1 : ℚ) / (x.ratio.2 : ℚ)

theorem ratio_den_pos (x : Binary64) : 0 < x.ratio.2 := by
  simp only [ratio_eq]
  exact Nat.pow_pos (by norm_num)

theorem eqInt_iff (x : Binary64) (n : Int) :
    x.eqInt n = true ↔ x.isFinite = true ∧ x.value = n := by
  have hd : (x.ratio.2 : ℚ) ≠ 0 := by
    exact_mod_cast (ratio_den_pos x).ne'
  have hv : x.value = n ↔ x.ratio.1 = n * x.ratio.2 := by
    rw [value, div_eq_iff hd]
    norm_cast
  rw [hv]
  simp only [eqInt, isFinite, Bool.and_eq_true, beq_iff_eq]

theorem significand_lt (x : Binary64) : x.significand < 2 ^ 53 := by
  have hf := x.fraction_lt
  simp only [significand]
  split <;> omega

/-- The exponent, moved up so that it is a natural number, and the significand tell a subnormal
number from a normal one. -/
theorem exponent_cases (x : Binary64) :
    (x.biased = 0 ∧ x.exponent = -1074 ∧ x.significand = x.fraction ∧ x.significand < 2 ^ 52)
    ∨ (0 < x.biased ∧ x.exponent = (x.biased : Int) - 1075
        ∧ x.significand = 2 ^ 52 + x.fraction) := by
  have hf := x.fraction_lt
  by_cases hb : x.biased = 0
  · left
    simp only [exponent, significand, hb, beq_self_eq_true, ite_true]
    exact ⟨trivial, trivial, trivial, hf⟩
  · right
    have hne : (x.biased == 0) = false := by simpa using hb
    simp only [exponent, significand, hne, Bool.false_eq_true, ite_false]
    exact ⟨Nat.pos_of_ne_zero hb, trivial, by norm_num⟩

theorem fields_of_magnitude_le {x y : Binary64} (hle : x.exponent ≤ y.exponent)
    (h : x.significand * 2 ^ x.exponent.toNat * 2 ^ (-y.exponent).toNat
      = y.significand * 2 ^ y.exponent.toNat * 2 ^ (-x.exponent).toNat) :
    x.significand = y.significand ∧ (0 < x.significand → x.exponent = y.exponent) := by
  obtain ⟨d, hd⟩ : ∃ d : Nat, y.exponent = x.exponent + d :=
    ⟨(y.exponent - x.exponent).toNat, by omega⟩
  have hexp : y.exponent.toNat + (-x.exponent).toNat
      = d + (x.exponent.toNat + (-y.exponent).toNat) := by omega
  have hpow : 0 < 2 ^ (x.exponent.toNat + (-y.exponent).toNat) := Nat.pow_pos (by norm_num)
  have hsig : x.significand = y.significand * 2 ^ d := by
    apply Nat.eq_of_mul_eq_mul_right hpow
    calc x.significand * 2 ^ (x.exponent.toNat + (-y.exponent).toNat)
        = x.significand * 2 ^ x.exponent.toNat * 2 ^ (-y.exponent).toNat := by
          rw [pow_add, mul_assoc]
      _ = y.significand * 2 ^ (y.exponent.toNat + (-x.exponent).toNat) := by
          rw [h, pow_add, mul_assoc]
      _ = y.significand * 2 ^ d * 2 ^ (x.exponent.toNat + (-y.exponent).toNat) := by
          rw [hexp, pow_add, mul_assoc]
  cases d with
  | zero =>
    rw [pow_zero, mul_one] at hsig
    exact ⟨hsig, fun _ => by omega⟩
  | succ d =>
    -- the larger exponent belongs to a normal number, whose significand leaves no room above
    have hxlt := x.significand_lt
    have htwo : 1 ≤ 2 ^ d := Nat.one_le_two_pow
    rcases y.exponent_cases with ⟨_, he, _, _⟩ | ⟨_, _, hs⟩
    · rcases x.exponent_cases with ⟨_, hex, _, _⟩ | ⟨hb, hex, _⟩ <;> omega
    · have hbig : 2 ^ 52 * 2 ≤ y.significand * 2 ^ (d + 1) := by
        apply Nat.mul_le_mul
        · omega
        · rw [pow_succ]
          omega
      omega

theorem fields_of_magnitude {x y : Binary64}
    (h : x.significand * 2 ^ x.exponent.toNat * 2 ^ (-y.exponent).toNat
      = y.significand * 2 ^ y.exponent.toNat * 2 ^ (-x.exponent).toNat) :
    x.significand = y.significand ∧ (0 < x.significand → x.exponent = y.exponent) := by
  rcases Int.le_total x.exponent y.exponent with hle | hle
  · exact fields_of_magnitude_le hle h
  · obtain ⟨hs, he⟩ := fields_of_magnitude_le hle h.symm
    exact ⟨hs.symm, fun hpos => (he (by omega)).symm⟩

theorem isZero_iff (x : Binary64) : x.isZero = true ↔ x.significand = 0 := by
  rcases x.exponent_cases with ⟨hb, _, hs, _⟩ | ⟨hb, _, hs⟩
  · simp only [isZero, hb, hs, beq_self_eq_true, Bool.true_and, beq_iff_eq]
  · have hne : (x.biased == 0) = false := by
      rw [beq_eq_false_iff_ne]
      omega
    simp only [isZero, hne, Bool.false_and, Bool.false_eq_true, false_iff]
    omega

theorem ratio_num_natAbs (x : Binary64) :
    x.ratio.1.natAbs = x.significand * 2 ^ x.exponent.toNat := by
  simp only [ratio_eq]
  split <;> omega

theorem ratio_num_nonneg_iff (x : Binary64) (h : 0 < x.significand) :
    0 ≤ x.ratio.1 ↔ x.negative = false := by
  have hpos : 0 < x.significand * 2 ^ x.exponent.toNat :=
    Nat.mul_pos h (Nat.pow_pos (by norm_num))
  simp only [ratio_eq]
  cases x.negative with
  | true =>
    simp only [ite_true, Bool.true_eq_false, iff_false]
    omega
  | false =>
    simp only [Bool.false_eq_true, ite_false, iff_true]
    omega

theorem same_of_value_eq {x y : Binary64} (h : x.value = y.value) : x.same y = true := by
  have hdx : (x.ratio.2 : ℚ) ≠ 0 := by exact_mod_cast (ratio_den_pos x).ne'
  have hdy : (y.ratio.2 : ℚ) ≠ 0 := by exact_mod_cast (ratio_den_pos y).ne'
  have hcross : x.ratio.1 * (y.ratio.2 : Int) = y.ratio.1 * (x.ratio.2 : Int) := by
    rw [value, value, div_eq_div_iff hdx hdy] at h
    exact_mod_cast h
  have hmag : x.significand * 2 ^ x.exponent.toNat * 2 ^ (-y.exponent).toNat
      = y.significand * 2 ^ y.exponent.toNat * 2 ^ (-x.exponent).toNat := by
    have habs := congrArg Int.natAbs hcross
    rw [Int.natAbs_mul, Int.natAbs_mul, ratio_num_natAbs, ratio_num_natAbs, Int.natAbs_natCast,
      Int.natAbs_natCast] at habs
    exact habs
  obtain ⟨hs, he⟩ := fields_of_magnitude hmag
  rw [same, Bool.or_eq_true, Bool.and_eq_true, isZero_iff, isZero_iff, beq_iff_eq]
  rcases Nat.eq_zero_or_pos x.significand with hz | hpos
  · exact Or.inr ⟨hz, by omega⟩
  · left
    have hexp := he hpos
    have hneg : x.negative = y.negative := by
      have hxd : (0 : Int) < x.ratio.2 := by exact_mod_cast ratio_den_pos x
      have hyd : (0 : Int) < y.ratio.2 := by exact_mod_cast ratio_den_pos y
      have hsign : 0 ≤ x.ratio.1 ↔ 0 ≤ y.ratio.1 := by
        rw [← mul_nonneg_iff_of_pos_right hyd, hcross, mul_nonneg_iff_of_pos_right hxd]
      rw [ratio_num_nonneg_iff x hpos, ratio_num_nonneg_iff y (by omega)] at hsign
      cases hx : x.negative with
      | false => exact (hsign.mp hx).symm
      | true =>
        cases hy : y.negative with
        | false => exact hx.symm.trans (hsign.mpr hy)
        | true => rfl
    rcases x.exponent_cases with ⟨hbx, hex, hsx, hlx⟩ | ⟨hbx, hex, hsx⟩
    · rcases y.exponent_cases with ⟨hby, hey, hsy, hly⟩ | ⟨hby, hey, hsy⟩
      · exact eq_of_fields hneg (by omega) (by omega)
      · omega
    · rcases y.exponent_cases with ⟨hby, hey, hsy, hly⟩ | ⟨hby, hey, hsy⟩
      · omega
      · exact eq_of_fields hneg (by omega) (by omega)

theorem value_eq_zero_of_isZero {x : Binary64} (h : x.isZero = true) : x.value = 0 := by
  have hn : x.ratio.1 = 0 := by
    rw [← Int.natAbs_eq_zero, ratio_num_natAbs, (isZero_iff x).mp h, Nat.zero_mul]
  rw [value, hn, Int.cast_zero, zero_div]

theorem isFinite_of_isZero {x : Binary64} (h : x.isZero = true) : x.isFinite = true := by
  simp only [isZero, Bool.and_eq_true, beq_iff_eq] at h
  have hb : (x.biased == 0x7FF) = false := by
    rw [h.1]
    rfl
  simp only [isFinite, isNaN, isInfinite, hb, Bool.false_and, Bool.not_false, Bool.and_self]

/-- Equality of finite numbers is equality of values. -/
theorem same_iff_value {x y : Binary64} : x.same y = true ↔
    x = y ∨ (x.isFinite = true ∧ y.isFinite = true ∧ x.value = y.value) := by
  constructor
  · intro h
    rw [same, Bool.or_eq_true, beq_iff_eq, Bool.and_eq_true] at h
    rcases h with h | ⟨hx, hy⟩
    · exact Or.inl h
    · refine Or.inr ⟨isFinite_of_isZero hx, isFinite_of_isZero hy, ?_⟩
      rw [value_eq_zero_of_isZero hx, value_eq_zero_of_isZero hy]
  · rintro (rfl | ⟨_, _, hv⟩)
    · exact same_refl x
    · exact same_of_value_eq hv

end PandocHtml.Binary64
