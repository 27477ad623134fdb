import Mathlib.Algebra.Order.Field.Power
import Mathlib.Data.Fintype.Basic
import Mathlib.Data.Rat.Cast.Order
import Mathlib.Tactic.FinCases
import Mathlib.Tactic.NormNum
import Mathlib.Tactic.Positivity
import RaftMysql.Decimal.Literal
import RaftMysql.Proofs.Decimal.Rounding

/-!
# Decimal numbers whose nearest double is finite

Scientific notation is multiplied out or divided in doubles when the number and its power of ten are short
(`isFinite_ofScientific_of_short`), and is rounded from the exact value when they are not
(`isFinite_rounded_iff`). Numbers that are told by their size alone are far from the limit. So the double
nearest to a number is finite just when the number itself is below the limit (`isFinite_nearest_iff`).
-/

namespace RaftMysql.Decimal

open Float.Model Float.Model.UnpackedFloat

/-! ### The limit -/

theorem limit_eq : (2 : ℚ) ^ 1024 - 2 ^ 970 = (((2 ^ 54 - 1) * 2 ^ 970 : ℕ) : ℚ) := by
  have hsum : 1024 = 54 + 970 := rfl
  rw [hsum, pow_add, Nat.cast_mul, Nat.cast_pow, Nat.cast_sub Nat.one_le_two_pow, Nat.cast_pow,
    Nat.cast_ofNat, Nat.cast_one, sub_mul, one_mul]

theorem mul_ten_pow_lt_limit_iff (d n : ℕ) :
    (d : ℚ) * 10 ^ (n : ℤ) < 2 ^ 1024 - 2 ^ 970 ↔ d * 10 ^ n < (2 ^ 54 - 1) * 2 ^ 970 := by
  rw [limit_eq, zpow_natCast, ← Nat.cast_lt (α := ℚ), Nat.cast_mul d, Nat.cast_pow 10 n, Nat.cast_ofNat]

theorem mul_ten_neg_pow_lt_limit_iff (d n : ℕ) :
    (d : ℚ) * 10 ^ (-n : ℤ) < 2 ^ 1024 - 2 ^ 970 ↔ d < (2 ^ 54 - 1) * 2 ^ 970 * 10 ^ n := by
  rw [limit_eq, zpow_neg, zpow_natCast, mul_inv_lt_iff₀ (by positivity), ← Nat.cast_lt (α := ℚ),
    Nat.cast_mul _ (10 ^ n), Nat.cast_pow 10 n, Nat.cast_ofNat]

theorem lt_limit_of_lt_one {x : ℚ} (h : x < 1) : x < 2 ^ 1024 - 2 ^ 970 := by
  refine h.trans_le ?_
  rw [limit_eq]
  exact_mod_cast Nat.one_le_iff_ne_zero.mpr (by positivity)

theorem mul_ten_zpow_lt_one {d k : ℕ} {e : ℤ} (hd : d < 10 ^ k) (h : k + e ≤ 0) : (d : ℚ) * 10 ^ e < 1 := by
  have hd : (d : ℚ) < 10 ^ k := by exact_mod_cast hd
  calc (d : ℚ) * 10 ^ e < 10 ^ k * 10 ^ e := by gcongr
    _ = 10 ^ (k + e) := by rw [zpow_add₀ (by norm_num), zpow_natCast]
    _ ≤ 10 ^ (0 : ℤ) := zpow_le_zpow_right₀ (by norm_num) h
    _ = 1 := zpow_zero 10

theorem limit_le_mul_ten_zpow {d k : ℕ} {e : ℤ} (hd : 10 ^ k ≤ d) (h : 309 ≤ k + e) :
    (2 : ℚ) ^ 1024 - 2 ^ 970 ≤ d * 10 ^ e := by
  have hd : (10 : ℚ) ^ k ≤ d := by exact_mod_cast hd
  have hpow : 2 ^ 1024 ≤ 10 ^ 309 := by decide +kernel
  calc (2 : ℚ) ^ 1024 - 2 ^ 970 ≤ 2 ^ 1024 := sub_le_self _ (by positivity)
    _ ≤ 10 ^ 309 := by exact_mod_cast hpow
    _ ≤ 10 ^ (k + e) := by
      rw [← zpow_natCast]
      exact zpow_le_zpow_right₀ (by norm_num) h
    _ = 10 ^ k * 10 ^ e := by rw [zpow_add₀ (by norm_num), zpow_natCast]
    _ ≤ d * 10 ^ e := by gcongr

/-! ### Scientific notation -/

theorem isFinite_rounded_iff (d : ℕ) (e : ℤ) :
    (Float.Model.ofScientific d e).unpack.isFinite = true ↔ (d : ℚ) * 10 ^ e < 2 ^ 1024 - 2 ^ 970 := by
  have hbits : ((2 : ℤ) ^ Format.binary64.exponentBits) = 2048 := rfl
  unfold Float.Model.ofScientific UnpackedFloat.ofScientific
  by_cases hzero : d = 0
  · rw [dif_pos hzero, hzero, Nat.cast_zero, zero_mul]
    exact iff_of_true (pack_unpack_zero _) (lt_limit_of_lt_one one_pos)
  have hd : 0 < d := Nat.pos_of_ne_zero hzero
  rw [dif_neg hzero]
  by_cases hlarge : e > 2 ^ Format.binary64.exponentBits
  · rw [if_pos hlarge, pack_unpack_infinity]
    rw [hbits] at hlarge
    exact iff_of_false Bool.false_ne_true (limit_le_mul_ten_zpow (k := 0) hd (by omega)).not_gt
  rw [if_neg hlarge]
  by_cases hsmall : e < -((2 : ℤ) ^ Format.binary64.exponentBits + d.log2)
  · rw [if_pos hsmall]
    rw [hbits] at hsmall
    have hbound : d < 10 ^ (d.log2 + 1) := Nat.lt_log2_self.trans_le (Nat.pow_le_pow_left (by decide) _)
    exact iff_of_true (pack_unpack_zero _) (lt_limit_of_lt_one (mul_ten_zpow_lt_one hbound (by omega)))
  rw [if_neg hsmall]
  -- The number, shifted by 53 bits, is multiplied with the power of ten, or divided by its inverse.
  by_cases hsign : 0 ≤ e
  · rw [if_pos hsign]
    obtain ⟨n, rfl⟩ := Int.eq_ofNat_of_zero_le hsign
    have hshift : (970 - (-((53 : ℕ) : ℤ) + 0)).toNat = 970 + 53 := rfl
    have hassoc : d * 2 ^ 53 * 10 ^ n = d * 10 ^ n * 2 ^ 53 := Nat.mul_right_comm d (2 ^ 53) (10 ^ n)
    have hmantissa : Format.binary64.mantissaBits = 53 := rfl
    rw [mul_ten_pow_lt_limit_iff]
    refine (isFinite_mul_iff (by decide)).trans ?_
    rw [hmantissa, hshift, Int.toNat_natCast, Nat.shiftLeft_eq, hassoc, pow_add, ← mul_assoc,
      Nat.mul_lt_mul_right (Nat.two_pow_pos 53)]
  · rw [if_neg hsign]
    obtain ⟨n, rfl⟩ : ∃ n : ℕ, e = -n := ⟨(-e).toNat, by omega⟩
    have hshift : (970 - (0 - 0 : ℤ)).toNat = 970 := rfl
    rw [isFinite_div_iff (by omega), mul_ten_neg_pow_lt_limit_iff, hshift, Int.neg_neg,
      Int.toNat_natCast]

/-- The powers of ten that are kept have 53 bits and small exponents. -/
theorem exists_unpack_powerOfTen (i : Fin 23) : ∃ m e h,
    Float.exactlyRepresentablePowersOfTen[i.val].toModel.unpack = .finite .positive m e h ∧
      m < 2 ^ 53 ∧ -52 ≤ e ∧ e ≤ 21 := by
  fin_cases i
  all_goals exact ⟨_, _, _, rfl, by decide, by decide, by decide⟩

theorem isFinite_ofScientific_of_short {d n : ℕ} (h : d < 2 ^ 53 ∧ n ≤ 22) (small : Bool) :
    (Float.ofScientific d small n).isFinite = true := by
  obtain ⟨m, e, hm, hpower, hlt, hlow, hhigh⟩ := exists_unpack_powerOfTen ⟨n, Nat.lt_succ_of_le h.2⟩
  have hd := atMost_toFloat h.1
  unfold Float.ofScientific
  rw [dif_pos h]
  cases small with
  | true =>
    show (Float.Model.pack (div _ _ _)).unpack.isFinite = true
    rw [hpower]
    exact isFinite_div_of_atMost hd hlow
  | false =>
    show (Float.Model.pack (mul _ _ _)).unpack.isFinite = true
    rw [hpower]
    exact isFinite_mul_of_atMost hd hlt hhigh

theorem lt_limit_of_short {d : ℕ} {e : ℤ} (hd : d < 2 ^ 53) (he : e ≤ 22) :
    (d : ℚ) * 10 ^ e < 2 ^ 1024 - 2 ^ 970 := by
  have hpow : 2 ^ 53 * 10 ^ 22 < (2 ^ 54 - 1) * 2 ^ 970 := by decide +kernel
  calc (d : ℚ) * 10 ^ e ≤ 2 ^ 53 * 10 ^ (22 : ℤ) := by
        gcongr
        · exact_mod_cast hd.le
        · norm_num
    _ < 2 ^ 1024 - 2 ^ 970 := by
      rw [limit_eq]
      exact_mod_cast hpow

theorem isFinite_ofScientific_iff (d : ℕ) (e : ℤ) :
    (Float.ofScientific d (e < 0) e.natAbs).isFinite = true ↔ (d : ℚ) * 10 ^ e < 2 ^ 1024 - 2 ^ 970 := by
  by_cases h : d < 2 ^ 53 ∧ e.natAbs ≤ 22
  · exact iff_of_true (isFinite_ofScientific_of_short h _) (lt_limit_of_short h.1 (by omega))
  · have hsign : (if decide (e < 0) then Int.negOfNat e.natAbs else Int.ofNat e.natAbs) = e := by
      by_cases hneg : e < 0
      · rw [if_pos (decide_eq_true hneg), Int.negOfNat_eq, Int.ofNat_eq_natCast]
        omega
      · rw [if_neg (by simpa using hneg), Int.ofNat_eq_natCast]
        omega
    unfold Float.ofScientific
    rw [dif_neg h, hsign]
    exact isFinite_rounded_iff d e

theorem lt_ten_pow_width (d : ℕ) : d < 10 ^ width d :=
  (Nat.length_toDigits_le_iff (by decide) Nat.length_toDigits_pos).mp (Nat.le_refl (width d))

theorem ten_pow_le_of_lt_width {d k : ℕ} (hd : 0 < d) (h : k < width d) : 10 ^ k ≤ d := by
  by_contra hlt
  rcases Nat.eq_zero_or_pos k with rfl | hk
  · omega
  · exact absurd ((Nat.length_toDigits_le_iff (by decide) hk).mpr (by omega)) (Nat.not_le.mpr h)

/-- **The nearest double** is finite just when the number is below the largest finite double and half of its
last place more. -/
theorem isFinite_nearest_iff (d : ℕ) (e : ℤ) :
    (nearest d e).isFinite = true ↔ (d : ℚ) * 10 ^ e < 2 ^ 1024 - 2 ^ 970 := by
  have hzero : (0 : Float).isFinite = true := by decide
  have hinfinite : (1 / 0 : Float).isFinite = false := by decide
  unfold nearest
  dsimp only
  split
  · rename_i hd
    rw [hd, Nat.cast_zero, zero_mul]
    exact iff_of_true hzero (lt_limit_of_lt_one one_pos)
  · rename_i hd
    split
    · rename_i hlarge
      rw [hinfinite]
      obtain ⟨k, hk⟩ : ∃ k, width d = k + 1 := Nat.exists_eq_succ_of_ne_zero Nat.length_toDigits_pos.ne'
      have hpow : 10 ^ k ≤ d := ten_pow_le_of_lt_width (Nat.pos_of_ne_zero hd) (by omega)
      exact iff_of_false Bool.false_ne_true (limit_le_mul_ten_zpow hpow (by omega)).not_gt
    · split
      · rename_i hsmall
        exact iff_of_true hzero (lt_limit_of_lt_one (mul_ten_zpow_lt_one (lt_ten_pow_width d) (by omega)))
      · exact isFinite_ofScientific_iff d e

/-- The exact value of a literal, its sign apart. -/
def Literal.magnitude (l : Literal) : ℚ := l.digits * 10 ^ l.exponent

end RaftMysql.Decimal
