import Mathlib.Algebra.Order.Field.Power
import Mathlib.Algebra.Order.Floor.Semifield
import Mathlib.Data.Rat.Floor
import Mathlib.Tactic.FieldSimp
import Mathlib.Tactic.Linarith
import Mathlib.Tactic.NormNum
import Mathlib.Tactic.Positivity
import Mathlib.Tactic.Ring
import RecordGate.Number.Double

/-!
# `RecordGate.Proofs.Number.Double` — how far rounding goes

Quotients and doubles stand for rational numbers (`Ratio.value`, `Double.value`), and the operations on them for those on
the numbers. The double nearest to a number that is at least one is greater than it by at most one part in `2 ^ 53`
(`value_round_le`), and rounding never goes below a power of two (`two_pow_le_value_round`). These two facts tell which
decimals are finite, and how small the double that a decimal is read as can be (`exists_ofDecimal?`).
-/

namespace RecordGate.Number

/-! ## Quotients as rational numbers -/

namespace Ratio

/-- The number that a quotient stands for. -/
def value (r : Ratio) : ℚ :=
  r.num / r.den

/-- Scaling multiplies the value by a power of the base, also a negative one. -/
theorem value_scale (r : Ratio) {base : Nat} (hb : base ≠ 0) (e : Int) :
    (r.scale base e).value = r.value * (base : ℚ) ^ e := by
  have hbase : (base : ℚ) ≠ 0 := Nat.cast_ne_zero.mpr hb
  unfold scale value
  split
  · rename_i he
    obtain ⟨k, rfl⟩ := Int.eq_ofNat_of_zero_le he
    simp only [Int.toNat_natCast, Nat.pow_eq, Nat.cast_mul, Nat.cast_pow, zpow_natCast]
    ring
  · rename_i he
    obtain ⟨k, hk⟩ := Int.eq_ofNat_of_zero_le (show 0 ≤ -e by omega)
    obtain rfl : e = -(k : Int) := by omega
    simp only [neg_neg, Int.toNat_natCast, Nat.pow_eq, Nat.cast_mul, Nat.cast_pow, zpow_neg, zpow_natCast]
    rw [← div_div, div_eq_mul_inv _ ((base : ℚ) ^ k)]

theorem den_scale_pos {r : Ratio} {b : Nat} (hr : 0 < r.den) (hb : b ≠ 0) (e : Int) :
    0 < (r.scale b e).den := by
  unfold scale
  split
  · exact hr
  · exact Nat.mul_pos hr (Nat.pow_pos (Nat.pos_of_ne_zero hb))

theorem value_mul (r s : Ratio) : (r.mul s).value = r.value * s.value := by
  unfold mul value
  push_cast
  rw [div_mul_div_comm]

/-- Ratios are compared by multiplying across, which is the comparison of the values. -/
theorem le_iff {r s : Ratio} (hr : 0 < r.den) (hs : 0 < s.den) : r.le s = true ↔ r.value ≤ s.value := by
  have hrq : (0 : ℚ) < r.den := Nat.cast_pos.mpr hr
  have hsq : (0 : ℚ) < s.den := Nat.cast_pos.mpr hs
  unfold le value
  rw [decide_eq_true_eq, div_le_div_iff₀ hrq hsq]
  exact_mod_cast Iff.rfl

/-- The whole part of a ratio is the floor of its value. -/
theorem floor_eq (r : Ratio) : r.floor = ⌊r.value⌋₊ :=
  (Nat.floor_div_eq_div r.num r.den).symm

/-- A value is its whole part and the remainder over the denominator. -/
theorem value_eq_floor_add {r : Ratio} (hr : 0 < r.den) :
    r.value = (r.num / r.den : Nat) + ((r.num % r.den : Nat) : ℚ) / r.den := by
  have hrq : (r.den : ℚ) ≠ 0 := (Nat.cast_pos.mpr hr).ne'
  have hdiv : ((r.num : ℕ) : ℚ) = r.den * (r.num / r.den : Nat) + (r.num % r.den : Nat) := by
    exact_mod_cast (Nat.div_add_mod r.num r.den).symm
  unfold value
  rw [hdiv, add_div, mul_div_cancel_left₀ _ hrq]

/-- Rounding does not go below a natural number. -/
theorem le_nearest {r : Ratio} {k : Nat} (h : (k : ℚ) ≤ r.value) : k ≤ r.nearest := by
  have hfloor : k ≤ r.num / r.den := by
    have hk : k ≤ r.floor := by
      rw [floor_eq]
      exact Nat.le_floor h
    exact hk
  unfold nearest
  dsimp only
  split_ifs
  · exact hfloor
  · omega
  · omega

/-- Rounding goes up by at most one half. -/
theorem nearest_le {r : Ratio} (hr : 0 < r.den) : (r.nearest : ℚ) ≤ r.value + 1 / 2 := by
  have hrq : (0 : ℚ) < r.den := Nat.cast_pos.mpr hr
  have hrest : (0 : ℚ) ≤ ((r.num % r.den : Nat) : ℚ) / r.den := by positivity
  rw [value_eq_floor_add hr]
  unfold nearest
  dsimp only
  split_ifs with hlow hhigh
  · linarith
  · -- the rest is more than one half
    have hhalf : (1 : ℚ) / 2 ≤ ((r.num % r.den : Nat) : ℚ) / r.den := by
      rw [div_le_div_iff₀ (by norm_num) hrq]
      have hcast : ((r.den : ℕ) : ℚ) ≤ (2 * (r.num % r.den) : Nat) := by exact_mod_cast hhigh.le
      push_cast at hcast ⊢
      linarith
    push_cast
    linarith
  · -- the rest is one half, and goes to the even neighbour
    have hhalf : ((r.num % r.den : Nat) : ℚ) / r.den = 1 / 2 := by
      rw [div_eq_div_iff hrq.ne' (by norm_num)]
      have hcast : ((2 * (r.num % r.den) : Nat) : ℚ) = (r.den : ℕ) := by
        congr 1
        omega
      push_cast at hcast ⊢
      linarith
    have heven : ((r.num / r.den % 2 : Nat) : ℚ) ≤ 1 := by
      exact_mod_cast (show r.num / r.den % 2 ≤ 1 by omega)
    rw [hhalf]
    push_cast
    linarith

/-! ## The binary exponent of a quotient -/

/-- The exponent of the greatest power of two that is not greater. -/
def top (r : Ratio) : Int :=
  let guess : Int := (r.num.log2 : Int) - (r.den.log2 : Int)
  if Ratio.le (Ratio.scale ⟨1, 1⟩ 2 guess) r then guess else guess - 1

theorem value_one_scale (e : Int) : (Ratio.scale ⟨1, 1⟩ 2 e).value = (2 : ℚ) ^ e := by
  rw [value_scale _ (by decide)]
  simp [value]

/-- The top place of a ratio that is not zero: its value lies from that power of two up to the next. -/
theorem two_zpow_top_le {r : Ratio} (hn : r.num ≠ 0) (hd : 0 < r.den) :
    (2 : ℚ) ^ r.top ≤ r.value ∧ r.value < 2 ^ (r.top + 1) := by
  have hdq : (0 : ℚ) < r.den := Nat.cast_pos.mpr hd
  have hnum : ((2 : ℚ) ^ r.num.log2 ≤ r.num) ∧ (r.num : ℚ) < 2 ^ (r.num.log2 + 1) := by
    exact_mod_cast (⟨Nat.log2_self_le hn, Nat.lt_log2_self⟩ : _ ∧ _)
  have hden : ((2 : ℚ) ^ r.den.log2 ≤ r.den) ∧ (r.den : ℚ) < 2 ^ (r.den.log2 + 1) := by
    exact_mod_cast (⟨Nat.log2_self_le hd.ne', Nat.lt_log2_self⟩ : _ ∧ _)
  have htwo : (2 : ℚ) ≠ 0 := by norm_num
  -- the two logarithms determine the exponent up to one
  have hlow : (2 : ℚ) ^ ((r.num.log2 : Int) - r.den.log2 - 1) ≤ r.value := by
    unfold value
    rw [le_div_iff₀ hdq]
    calc (2 : ℚ) ^ ((r.num.log2 : Int) - r.den.log2 - 1) * r.den
        ≤ 2 ^ ((r.num.log2 : Int) - r.den.log2 - 1) * 2 ^ (r.den.log2 + 1) := by
          gcongr
          exact hden.2.le
      _ = 2 ^ r.num.log2 := by
          rw [← zpow_natCast, ← zpow_natCast, ← zpow_add₀ htwo]
          congr 1
          push_cast
          ring
      _ ≤ r.num := hnum.1
  have hhigh : r.value < (2 : ℚ) ^ ((r.num.log2 : Int) - r.den.log2 + 1) := by
    unfold value
    rw [div_lt_iff₀ hdq]
    calc (r.num : ℚ) < 2 ^ (r.num.log2 + 1) := hnum.2
      _ = 2 ^ ((r.num.log2 : Int) - r.den.log2 + 1) * 2 ^ r.den.log2 := by
          rw [← zpow_natCast, ← zpow_natCast, ← zpow_add₀ htwo]
          congr 1
          push_cast
          ring
      _ ≤ 2 ^ ((r.num.log2 : Int) - r.den.log2 + 1) * r.den := by
          gcongr
          exact hden.1
  have hle := le_iff (den_scale_pos (r := ⟨1, 1⟩) (by decide) (b := 2) (by decide)
    ((r.num.log2 : Int) - r.den.log2)) hd
  rw [value_one_scale] at hle
  unfold top
  dsimp only
  split
  · rename_i h
    exact ⟨hle.mp h, hhigh⟩
  · rename_i h
    rw [hle, not_le] at h
    refine ⟨hlow, ?_⟩
    rwa [sub_add_cancel]

end Ratio

/-! ## Doubles as rational numbers -/

namespace Double

/-- The number that a double stands for. -/
def value (d : Double) : ℚ :=
  d.mantissa * (2 : ℚ) ^ d.exponent

theorem value_toRatio (d : Double) : d.toRatio.value = d.value := by
  unfold toRatio
  rw [Ratio.value_scale _ (by decide)]
  simp [Ratio.value, value]

theorem den_toRatio_pos (d : Double) : 0 < d.toRatio.den :=
  Ratio.den_scale_pos (r := ⟨d.mantissa, 1⟩) Nat.one_pos (by decide) d.exponent

theorem value_nonneg (d : Double) : 0 ≤ d.value := by
  unfold value
  positivity

/-- A whole number is at most the truncation of a double exactly if it is at most its value. -/
theorem le_truncate_iff {d : Double} {k : Nat} : k ≤ d.truncate ↔ (k : ℚ) ≤ d.value := by
  unfold truncate
  rw [Ratio.floor_eq, value_toRatio, Nat.le_floor_iff d.value_nonneg]

/-- A double with a full significand is at least two to the place of its first bit. -/
theorem two_zpow_le_value {d : Double} {e : Int} (hm : leastNormal ≤ d.mantissa) (he : e ≤ d.exponent) :
    (2 : ℚ) ^ (52 + e) ≤ d.value := by
  have hmantissa : ((leastNormal : Nat) : ℚ) ≤ d.mantissa := by exact_mod_cast hm
  calc (2 : ℚ) ^ (52 + e) = leastNormal * 2 ^ e := by
        rw [zpow_add₀ two_ne_zero]
        norm_num [leastNormal]
    _ ≤ d.mantissa * 2 ^ d.exponent := by
        gcongr
        exact one_le_two

/-! ## Rounding -/

/-- The exponent of the last place that rounding keeps. -/
def lastPlace (r : Ratio) : Int :=
  max (r.top - 52) minExponent

/-- Rounding a ratio that is not zero, the carry into the next binade written out. -/
theorem round_eq {r : Ratio} (hn : r.num ≠ 0) :
    round r = if (r.scale 2 (-lastPlace r)).nearest == 2 * leastNormal then ⟨leastNormal, lastPlace r + 1⟩
      else ⟨(r.scale 2 (-lastPlace r)).nearest, lastPlace r⟩ := by
  unfold round
  rw [if_neg (by rwa [beq_iff_eq])]
  rfl

/-- A carry into the next exponent does not change the value. -/
theorem value_round {r : Ratio} (hn : r.num ≠ 0) :
    (round r).value = (r.scale 2 (-lastPlace r)).nearest * (2 : ℚ) ^ lastPlace r := by
  rw [round_eq hn]
  split
  · rename_i hcarry
    rw [beq_iff_eq.mp hcarry]
    unfold value
    rw [zpow_add_one₀ (by norm_num)]
    push_cast
    ring
  · rfl

section

variable {r : Ratio}

theorem num_ne_zero_of_one_le (h : 1 ≤ r.value) : r.num ≠ 0 := by
  intro hzero
  unfold Ratio.value at h
  rw [hzero, Nat.cast_zero, zero_div] at h
  exact absurd h (by norm_num)

/-- Beyond one, the places that rounding keeps are the first fifty-three. -/
theorem lastPlace_of_one_le (hd : 0 < r.den) (h : 1 ≤ r.value) : lastPlace r = r.top - 52 := by
  have htop := (Ratio.two_zpow_top_le (num_ne_zero_of_one_le h) hd).2
  have hpos : (2 : ℚ) ^ (0 : Int) < 2 ^ (r.top + 1) := by
    rw [zpow_zero]
    exact lt_of_le_of_lt h htop
  have hexp : 0 < r.top + 1 := (zpow_lt_zpow_iff_right₀ (by norm_num)).mp hpos
  unfold lastPlace minExponent
  omega

theorem value_scaled (r : Ratio) : (r.scale 2 (-lastPlace r)).value = r.value * (2 : ℚ) ^ (-lastPlace r) := by
  rw [Ratio.value_scale r (by decide)]
  norm_num

/-- No mantissa is shorter than fifty-three places. -/
theorem leastNormal_le_nearest (hd : 0 < r.den) (h : 1 ≤ r.value) :
    leastNormal ≤ (r.scale 2 (-lastPlace r)).nearest := by
  refine Ratio.le_nearest ?_
  rw [value_scaled, lastPlace_of_one_le hd h]
  have htop := (Ratio.two_zpow_top_le (num_ne_zero_of_one_le h) hd).1
  calc ((leastNormal : Nat) : ℚ) = 2 ^ r.top * 2 ^ (-(r.top - 52)) := by
        rw [← zpow_add₀ (by norm_num), show r.top + -(r.top - 52) = 52 by ring]
        norm_num [leastNormal]
    _ ≤ r.value * 2 ^ (-(r.top - 52)) := by gcongr

/-- Rounding a value of at least one gives a full significand: no such value is subnormal. -/
theorem leastNormal_le_mantissa_round (hd : 0 < r.den) (h : 1 ≤ r.value) :
    leastNormal ≤ (round r).mantissa := by
  rw [round_eq (num_ne_zero_of_one_le h)]
  split
  · exact Nat.le_refl _
  · exact leastNormal_le_nearest hd h

/-- The exponent of the rounded double is the last place kept, or one more after a carry. -/
theorem lastPlace_le_exponent_round (hn : r.num ≠ 0) : lastPlace r ≤ (round r).exponent := by
  rw [round_eq hn]
  split
  · exact (Int.lt_succ (lastPlace r)).le
  · exact le_refl _

/-- **Rounding does not go below a power of two.** -/
theorem two_pow_le_value_round (hd : 0 < r.den) {k : Nat} (h : (2 : ℚ) ^ k ≤ r.value) :
    (2 : ℚ) ^ k ≤ (round r).value := by
  have hone : 1 ≤ r.value := le_trans (one_le_pow₀ (by norm_num)) h
  have hnum := num_ne_zero_of_one_le hone
  have hk : (k : Int) ≤ r.top := by
    have hlt : (2 : ℚ) ^ (k : Int) < 2 ^ (r.top + 1) := by
      rw [zpow_natCast]
      exact lt_of_le_of_lt h (Ratio.two_zpow_top_le hnum hd).2
    have hexp : (k : Int) < r.top + 1 := (zpow_lt_zpow_iff_right₀ (by norm_num)).mp hlt
    omega
  calc (2 : ℚ) ^ k = 2 ^ (k : Int) := (zpow_natCast 2 k).symm
    _ ≤ 2 ^ r.top := zpow_le_zpow_right₀ one_le_two hk
    _ = 2 ^ (52 + lastPlace r) := by rw [lastPlace_of_one_le hd hone, add_sub_cancel]
    _ ≤ (round r).value :=
        two_zpow_le_value (leastNormal_le_mantissa_round hd hone) (lastPlace_le_exponent_round hnum)

/-- **Rounding adds at most one part in `2 ^ 53`.** -/
theorem value_round_le (hd : 0 < r.den) (h : 1 ≤ r.value) :
    (round r).value ≤ r.value * (1 + 1 / 2 ^ 53) := by
  have hnum := num_ne_zero_of_one_le h
  have hscaled := Ratio.nearest_le (Ratio.den_scale_pos hd (b := 2) (by decide) (-lastPlace r))
  rw [value_scaled] at hscaled
  have hplace : (2 : ℚ) ^ lastPlace r ≤ r.value * (1 / 2 ^ 52) := by
    rw [lastPlace_of_one_le hd h, zpow_sub₀ (by norm_num)]
    have htop := (Ratio.two_zpow_top_le hnum hd).1
    calc (2 : ℚ) ^ r.top / 2 ^ (52 : Int) = 2 ^ r.top * (1 / 2 ^ 52) := by norm_num [div_eq_mul_inv]
      _ ≤ r.value * (1 / 2 ^ 52) := by gcongr
  have hpow : (2 : ℚ) ^ (-lastPlace r) * 2 ^ lastPlace r = 1 := by
    rw [← zpow_add₀ (by norm_num), neg_add_cancel, zpow_zero]
  calc (round r).value = (r.scale 2 (-lastPlace r)).nearest * 2 ^ lastPlace r := value_round hnum
    _ ≤ (r.value * 2 ^ (-lastPlace r) + 1 / 2) * 2 ^ lastPlace r := by gcongr
    _ = r.value * (2 ^ (-lastPlace r) * 2 ^ lastPlace r) + 1 / 2 * 2 ^ lastPlace r := by ring
    _ = r.value + 1 / 2 * 2 ^ lastPlace r := by rw [hpow, mul_one]
    _ ≤ r.value + 1 / 2 * (r.value * (1 / 2 ^ 52)) := by gcongr
    _ = r.value * (1 + 1 / 2 ^ 53) := by ring

/-- What rounds to less than `2 ^ 1024` rounds to a double of the 64-bit format. -/
theorem isFinite_round (hd : 0 < r.den) (h : 1 ≤ r.value) (hlt : r.value * (1 + 1 / 2 ^ 53) < 2 ^ (1024 : Int)) :
    (round r).isFinite = true := by
  unfold isFinite
  rw [decide_eq_true_eq]
  by_contra hexp
  have hvalue : (2 : ℚ) ^ (52 + 972 : Int) ≤ (round r).value :=
    two_zpow_le_value (leastNormal_le_mantissa_round hd h) (by omega)
  exact absurd (le_trans hvalue (value_round_le hd h)) (not_le.mpr hlt)

end

/-! ## Decimals -/

theorem value_natCast (n : Nat) : (Ratio.mk n 1).value = n := by
  simp [Ratio.value]

section

variable {n i : Nat}

/-- Powers of two are kept by rounding, so a number that reaches one still reaches it as a double. -/
theorem two_pow_le_value_ofNat (h : 2 ^ i ≤ n) : (2 : ℚ) ^ i ≤ (ofNat n).value := by
  refine two_pow_le_value_round (r := ⟨n, 1⟩) Nat.one_pos ?_
  rw [value_natCast]
  exact_mod_cast h

/-- A whole number as a double exceeds the number by half a unit of the last place at most. -/
theorem value_ofNat_le (h : 1 ≤ n) : (ofNat n).value ≤ n * (1 + 1 / 2 ^ 53) := by
  have hone : 1 ≤ (Ratio.mk n 1).value := by
    rw [value_natCast]
    exact_mod_cast h
  have hle := value_round_le Nat.one_pos hone
  rwa [value_natCast] at hle

theorem mantissa_ofNat_ne_zero (h : 1 ≤ n) : (ofNat n).mantissa ≠ 0 := by
  have hone : 1 ≤ (Ratio.mk n 1).value := by
    rw [value_natCast]
    exact_mod_cast h
  have hle := leastNormal_le_mantissa_round Nat.one_pos hone
  intro hzero
  rw [show (round ⟨n, 1⟩).mantissa = 0 from hzero] at hle
  exact absurd hle (by decide)

end

/-- There is room for three roundings between `10 ^ 308` and the end of the 64-bit format. -/
theorem ten_pow_mul_lt : ((10 ^ 308 : Nat) : ℚ) * (3 / 2) < 2 ^ (1024 : Int) := by
  have hnat : 10 ^ 308 * 3 < 2 ^ 1024 * 2 := by decide +kernel
  have hcast : ((10 ^ 308 * 3 : Nat) : ℚ) < ((2 ^ 1024 * 2 : Nat) : ℚ) := Nat.cast_lt.mpr hnat
  rw [Nat.cast_mul, Nat.cast_mul, Nat.cast_pow 2] at hcast
  rw [← mul_div_assoc, div_lt_iff₀ two_pos]
  exact hcast

/-- A product that stays within ten to the 308 is finite: the errors of the two factors and of the product do not reach
    the end of the range. -/
theorem isFinite_mul_power {digits k : Nat} (hdigits : 1 ≤ digits) (hbound : digits * 10 ^ k ≤ 10 ^ 308)
    (hone : 1 ≤ (ofNat digits).value * (power k).value) : ((ofNat digits).mul (power k)).isFinite = true := by
  have hd := value_ofNat_le hdigits
  have hp : (power k).value ≤ ((10 ^ k : Nat) : ℚ) * (1 + 1 / 2 ^ 53) :=
    value_ofNat_le (Nat.one_le_pow k 10 (by decide))
  have hvalue : ((ofNat digits).toRatio.mul (power k).toRatio).value = (ofNat digits).value * (power k).value := by
    rw [Ratio.value_mul, value_toRatio, value_toRatio]
  have hcast : (digits : ℚ) * ((10 ^ k : Nat) : ℚ) ≤ ((10 ^ 308 : Nat) : ℚ) := by exact_mod_cast hbound
  refine isFinite_round (Nat.mul_pos (den_toRatio_pos _) (den_toRatio_pos _)) (by rwa [hvalue]) ?_
  rw [hvalue]
  calc (ofNat digits).value * (power k).value * (1 + 1 / 2 ^ 53)
      ≤ digits * (1 + 1 / 2 ^ 53) * (((10 ^ k : Nat) : ℚ) * (1 + 1 / 2 ^ 53)) * (1 + 1 / 2 ^ 53) := by
        gcongr
        exact value_nonneg _
    _ = digits * ((10 ^ k : Nat) : ℚ) * (1 + 1 / 2 ^ 53) ^ 3 := by ring
    _ ≤ ((10 ^ 308 : Nat) : ℚ) * (3 / 2) := by
        gcongr
        norm_num
    _ < 2 ^ (1024 : Int) := ten_pow_mul_lt

/-- **What a decimal is read as**, if it has no fraction and is at most `10 ^ 308`: a double that is no less than the
    powers of two that its digits and its power of ten reach. -/
theorem exists_ofDecimal? {digits k i j : Nat} (hbound : digits * 10 ^ k ≤ 10 ^ 308) (hk : k ≤ maxPower)
    (hdigits : 2 ^ i ≤ digits) (hpower : 2 ^ j ≤ 10 ^ k) :
    ∃ d, ofDecimal? digits k = some d ∧ 2 ^ (i + j) ≤ d.truncate := by
  have hone : 1 ≤ digits := le_trans Nat.one_le_two_pow hdigits
  have hlow : (2 : ℚ) ^ (i + j) ≤ (ofNat digits).value * (power k).value := by
    have hd := two_pow_le_value_ofNat hdigits
    have hp : (2 : ℚ) ^ j ≤ (power k).value := two_pow_le_value_ofNat hpower
    rw [pow_add]
    gcongr
    exact value_nonneg _
  have hfinite := isFinite_mul_power hone hbound (le_trans (one_le_pow₀ (by norm_num)) hlow)
  refine ⟨(ofNat digits).mul (power k), ?_, ?_⟩
  · have hmantissa : ((ofNat digits).mantissa == 0) = false :=
      beq_eq_false_iff_ne.mpr (mantissa_ofNat_ne_zero hone)
    unfold ofDecimal?
    rw [if_neg (by omega), hmantissa, if_neg (by decide), if_pos (by simpa using hk)]
    simp only [Int.toNat_natCast, hfinite, if_true]
  · rw [le_truncate_iff]
    push_cast
    refine two_pow_le_value_round (Nat.mul_pos (den_toRatio_pos _) (den_toRatio_pos _)) ?_
    rwa [Ratio.value_mul, value_toRatio, value_toRatio]

end Double

end RecordGate.Number
