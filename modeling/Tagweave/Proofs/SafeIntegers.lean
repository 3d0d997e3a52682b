import Mathlib
import Tagweave.Render.Props

namespace Tagweave

namespace Binary64

/-!
# Safe integers

A double that is a whole number of magnitude at most `2 ^ 53 - 1` is written as its decimal
digits with a sign (`Props.numberJson`); reading those digits back (`Binary64.ofDecimal`)
gives the same double, except that `-0` comes back as `+0`.

* The fields of a double are read off its bit pattern by division and remainder, and
  `Binary64.make_fields` puts them back together.
* `Binary64.ofRatio_whole`: a whole number `n · 2 ^ k` whose significand fits in 53 bits is
  rounded to itself, with biased exponent `1075 - k`.
* `Binary64.significand_of_whole`: a whole double below `2 ^ 53` has such a significand, with
  `n` its magnitude.
* `Binary64.ofDecimal_toInt` puts the two together.
-/

/-! ### Fields of the bit pattern -/

theorem fraction_eq (x : Binary64) : x.fraction = x.bits.toNat % 2 ^ 52 := by
  simp only [fraction, UInt64.toNat_and]
  rw [show (0xFFFFFFFFFFFFF : UInt64).toNat = 2 ^ 52 - 1 from rfl, Nat.and_two_pow_sub_one_eq_mod]

theorem biasedExponent_eq (x : Binary64) :
    x.biasedExponent = x.bits.toNat / 2 ^ 52 % 2 ^ 11 := by
  simp only [biasedExponent, UInt64.toNat_and, UInt64.toNat_shiftRight]
  rw [show (0x7FF : UInt64).toNat = 2 ^ 11 - 1 from rfl, Nat.and_two_pow_sub_one_eq_mod,
    show (52 : UInt64).toNat % 64 = 52 from rfl, Nat.shiftRight_eq_div_pow]

theorem isNegative_eq (x : Binary64) : x.isNegative = decide (2 ^ 63 ≤ x.bits.toNat) := by
  have hlt := x.bits.toNat_lt
  simp only [isNegative]
  rw [Bool.eq_iff_iff, beq_iff_eq, decide_eq_true_iff, ← UInt64.toNat_inj,
    UInt64.toNat_shiftRight, show (63 : UInt64).toNat % 64 = 63 from rfl,
    Nat.shiftRight_eq_div_pow, UInt64.toNat_one]
  simp only [Nat.reducePow] at hlt ⊢
  omega

theorem fraction_lt (x : Binary64) : x.fraction < 2 ^ 52 := by
  rw [fraction_eq]
  exact Nat.mod_lt _ (Nat.two_pow_pos 52)

/-- A double is its sign, biased exponent and fraction put together. -/
theorem make_fields (x : Binary64) : make x.isNegative x.biasedExponent x.fraction = x := by
  have hlt := x.bits.toNat_lt
  rw [make, isNegative_eq, biasedExponent_eq, fraction_eq]
  cases x with
  | mk bits =>
    congr 1
    rw [← UInt64.toNat_inj, UInt64.toNat_ofNat']
    simp only [Nat.pow_eq, Nat.reducePow] at hlt ⊢
    -- the sign bit is the quotient by `2 ^ 63`, the rest is exponent and fraction
    by_cases hsign : 9223372036854775808 ≤ bits.toNat
    · simp only [hsign, decide_true, if_true]
      omega
    · simp only [hsign, decide_false, Bool.false_eq_true, if_false]
      omega

/-! ### Rounding whole numbers -/

theorem ofDecimal_whole {n : Nat} (hn : n ≠ 0) (s : Bool) : ofDecimal s n 0 = ofRatio s n 1 := by
  have hsmall : ¬ ((decimalLength n : Int) < -330) := by omega
  simp [ofDecimal, hn, hsmall]

theorem binade_whole {n : Nat} (hn : n ≠ 0) : binade n 1 = n.log2 := by
  have hone : Nat.log2 1 = 0 := by decide
  simp [binade, ratioAtLeastPow, hone, Nat.log2_self_le hn]

theorem roundScaled_whole (n k : Nat) : roundScaled n 1 (-(k : Int)) = n * 2 ^ k := by
  by_cases hk : k = 0
  · subst hk
    simp [roundScaled, Nat.mod_one]
  · simp [roundScaled, hk, Nat.mod_one]

/-- A whole number `n · 2 ^ k` with a 53-bit significand is a double exactly. -/
theorem ofRatio_whole {n k : Nat} (hlo : 2 ^ 52 ≤ n * 2 ^ k) (hhi : n * 2 ^ k < 2 ^ 53)
    (s : Bool) : ofRatio s n 1 = make s (1075 - k) (n * 2 ^ k - 2 ^ 52) := by
  have hn : n ≠ 0 := by
    rintro rfl
    simp at hlo
  have hk : k ≤ 52 := by
    have hpow : 2 ^ k ≤ n * 2 ^ k := Nat.le_mul_of_pos_left _ (Nat.pos_of_ne_zero hn)
    have hlt : 2 ^ k < 2 ^ 53 := Nat.lt_of_le_of_lt hpow hhi
    have := (Nat.pow_lt_pow_iff_right (by decide : 1 < 2)).mp hlt
    omega
  have hlog : n.log2 = 52 - k := by
    rw [Nat.log2_eq_iff hn]
    constructor
    · apply Nat.le_of_mul_le_mul_right _ (Nat.two_pow_pos k)
      rw [← Nat.pow_add, Nat.sub_add_cancel hk]
      exact hlo
    · have hscaled : n * 2 ^ k < 2 ^ (52 - k + 1) * 2 ^ k := by
        rw [← Nat.pow_add, show 52 - k + 1 + k = 53 by omega]
        exact hhi
      exact Nat.lt_of_mul_lt_mul_right hscaled
  have he : max (((52 - k : Nat) : Int) - 52) (-1074) = -(k : Int) := by omega
  have hcarry : (n * 2 ^ k == 2 ^ 53) = false := by
    simp only [beq_eq_false_iff_ne]
    omega
  have hnormal : ¬ n * 2 ^ k < 2 ^ 52 := by omega
  have hfinite : ¬ 2047 ≤ -(k : Int) + 1075 := by omega
  have hbiased : (-(k : Int) + 1075).toNat = 1075 - k := by omega
  have hguard : (n == 0 || 1 == 0) = false := by simp [hn]
  simp only [ofRatio, Nat.pow_eq, hguard, Bool.false_eq_true, if_false, binade_whole hn, hlog,
    he, roundScaled_whole, hcarry, hnormal, hfinite, hbiased]

/-! ### Whole doubles -/

theorem natAbs_toInt (x : Binary64) : x.toInt.natAbs = x.ratio.1 / x.ratio.2 := by
  rcases hratio : x.ratio with ⟨n, d⟩
  simp only [toInt, hratio]
  cases x.isNegative <;>
    simp only [Int.natAbs_neg, Int.natAbs_natCast, if_true, if_false, Bool.false_eq_true]

theorem toInt_neg_iff (x : Binary64) :
    x.toInt < 0 ↔ x.isNegative = true ∧ 0 < x.ratio.1 / x.ratio.2 := by
  rcases hratio : x.ratio with ⟨n, d⟩
  simp only [toInt, hratio]
  generalize n / d = m
  cases x.isNegative with
  | false => simp
  | true => simp

/-- A fraction below `2 ^ 52` that a power of two of at least that size divides is zero. The
    power is kept symbolic, so that the shift of a subnormal is never evaluated. -/
theorem eq_zero_of_mod_two_pow {f n : Nat} (hf : f < 2 ^ 52) (hn : 52 ≤ n)
    (h : f % Nat.pow 2 n = 0) : f = 0 := by
  rw [Nat.pow_eq, Nat.mod_eq_of_lt (Nat.lt_of_lt_of_le hf (Nat.pow_le_pow_right (by decide) hn))]
    at h
  exact h

/-- A whole double with a biased exponent of zero is a zero. -/
theorem fraction_eq_zero_of_isIntegral {x : Binary64} (hintegral : x.isIntegral = true)
    (hB : x.biasedExponent = 0) : x.fraction = 0 := by
  have hnot : ¬ (0 : Int) ≤ -1074 := by decide
  simp only [isIntegral, exponent, significand, hB, if_true, hnot, decide_false, Bool.false_or,
    beq_iff_eq] at hintegral
  -- a subnormal is shifted by 1074 places, more than its 52 fraction bits
  exact eq_zero_of_mod_two_pow (fraction_lt x) (by decide) hintegral

/-- A whole double that is normal and below `2 ^ 53` in magnitude has its significand
    equal to its magnitude shifted left by the distance of its exponent below `2 ^ 52`. -/
theorem significand_of_whole {x : Binary64} (hintegral : x.isIntegral = true)
    (hsafe : x.toInt.natAbs ≤ Props.maxSafeInteger) (hB : x.biasedExponent ≠ 0) :
    x.biasedExponent ≤ 1075 ∧
      x.significand = x.toInt.natAbs * 2 ^ (1075 - x.biasedExponent) := by
  have hsig : x.significand = x.fraction + 2 ^ 52 := by simp [significand, hB]
  have hexp : x.exponent = (x.biasedExponent : Int) - 1075 := by simp [exponent, hB]
  have hlt := fraction_lt x
  rw [natAbs_toInt] at hsafe ⊢
  by_cases hhigh : 1075 ≤ x.biasedExponent
  · -- no fraction bits left: the magnitude is the significand times a power of two
    have hnonneg : 0 ≤ x.exponent := by omega
    have hk : x.exponent.toNat = x.biasedExponent - 1075 := by omega
    have hratio : x.ratio = (x.significand * 2 ^ (x.biasedExponent - 1075), 1) := by
      simp only [ratio, if_pos hnonneg, hk, Nat.pow_eq]
    simp only [hratio, Nat.div_one] at hsafe ⊢
    have hat : x.biasedExponent = 1075 := by
      refine Nat.le_antisymm (Nat.le_of_not_lt fun hgt => ?_) hhigh
      have hpow : 2 ≤ 2 ^ (x.biasedExponent - 1075) := Nat.le_self_pow (by omega) 2
      have hbig : 2 ^ 53 ≤ x.significand * 2 ^ (x.biasedExponent - 1075) := by
        calc 2 ^ 53 = 2 ^ 52 * 2 := by decide
          _ ≤ x.significand * 2 ^ (x.biasedExponent - 1075) := Nat.mul_le_mul (by omega) hpow
      simp only [Props.maxSafeInteger] at hsafe
      omega
    refine ⟨by omega, ?_⟩
    simp [hat]
  · have hneg : ¬ 0 ≤ x.exponent := by omega
    have hk : (-x.exponent).toNat = 1075 - x.biasedExponent := by omega
    have hratio : x.ratio = (x.significand, 2 ^ (1075 - x.biasedExponent)) := by
      simp only [ratio, if_neg hneg, hk, Nat.pow_eq]
    simp only [isIntegral, hneg, decide_false, Bool.false_or, beq_iff_eq, hk,
      Nat.pow_eq] at hintegral
    simp only [hratio]
    refine ⟨by omega, ?_⟩
    exact (Nat.div_mul_cancel (Nat.dvd_of_mod_eq_zero hintegral)).symm

/-- **Safe integers read back.** A double that is a whole number of magnitude at most
    `2 ^ 53 - 1`, and not `-0`, is the double read from its sign and decimal digits. -/
theorem ofDecimal_toInt {x : Binary64} (hintegral : x.isIntegral = true)
    (hsafe : x.toInt.natAbs ≤ Props.maxSafeInteger) (hzero : x ≠ zero true) :
    ofDecimal (decide (x.toInt < 0)) x.toInt.natAbs 0 = x := by
  have hfields := make_fields x
  by_cases hB : x.biasedExponent = 0
  · -- a whole subnormal double is a zero, and a positive one by `hzero`
    have hF := fraction_eq_zero_of_isIntegral hintegral hB
    have hsig0 : x.significand = 0 := by simp [significand, hB, hF]
    have hnum : x.ratio.1 = 0 := by
      unfold ratio
      split <;> simp only [hsig0, Nat.zero_mul]
    have hmag : x.toInt.natAbs = 0 := by rw [natAbs_toInt, hnum, Nat.zero_div]
    have hsign : x.isNegative = false := by
      cases hs : x.isNegative with
      | false => rfl
      | true =>
        rw [hs, hB, hF] at hfields
        exact absurd hfields.symm hzero
    have hnotneg : decide (x.toInt < 0) = false := by simp [toInt_neg_iff, hsign]
    rw [hnotneg, hmag]
    calc ofDecimal false 0 0 = zero false := by simp [ofDecimal]
      _ = make x.isNegative x.biasedExponent x.fraction := by rw [hsign, hB, hF]; rfl
      _ = x := hfields
  · obtain ⟨hle, hsig⟩ := significand_of_whole hintegral hsafe hB
    have hnormal : x.significand = x.fraction + 2 ^ 52 := by simp [significand, hB]
    have hlt := fraction_lt x
    have hpos : x.toInt.natAbs ≠ 0 := by
      intro h
      rw [h, Nat.zero_mul] at hsig
      omega
    have hsign : decide (x.toInt < 0) = x.isNegative := by
      have hiff := toInt_neg_iff x
      rw [← natAbs_toInt] at hiff
      cases hs : x.isNegative with
      | false => simp [hiff, hs]
      | true =>
        simp only [hiff, hs, true_and, decide_eq_true_eq]
        omega
    have hlo : 2 ^ 52 ≤ x.toInt.natAbs * 2 ^ (1075 - x.biasedExponent) := by omega
    have hhi : x.toInt.natAbs * 2 ^ (1075 - x.biasedExponent) < 2 ^ 53 := by omega
    rw [hsign, ofDecimal_whole hpos, ofRatio_whole hlo hhi]
    have hback : 1075 - (1075 - x.biasedExponent) = x.biasedExponent := by omega
    rw [hback, ← hsig, hnormal, Nat.add_sub_cancel]
    exact hfields

end Binary64

end Tagweave
