import Mathlib.Tactic.GCongr
import Mathlib.Tactic.Ring

/-!
# When rounding overflows

A rounded number becomes a finite double just when it is below `2 ^ 1024 - 2 ^ 970`, the largest finite
double and half of its last place more (`isFinite_round_iff`), and so does a product or a quotient of two
numbers (`isFinite_mul_iff`, `isFinite_div_iff`). Rounding drops bits once and moves the point by one place
more when the last bit that it keeps is carried over all others (`roundWithAccuracy_eq`).
-/

namespace RaftMysql.Decimal

open Float.Model Float.Model.UnpackedFloat

/-! ### Bits that are dropped -/

theorem mantissa_shift (em : ExtendedMantissa) (k : ℕ) : (em >>> k).mantissa = em.mantissa / 2 ^ k := by
  induction k with
  | zero => exact (Nat.div_one _).symm
  | succ k ih =>
    show (em >>> k).mantissa / 2 = _
    rw [ih, Nat.div_div_eq_div_mul, pow_succ]

theorem roundBit_shift (em : ExtendedMantissa) (k : ℕ) :
    (em >>> (k + 1)).roundBit = decide (em.mantissa / 2 ^ k % 2 = 1) := by
  show ((em >>> k).mantissa % 2 != 0) = _
  rw [mantissa_shift]
  rcases Nat.mod_two_eq_zero_or_one (em.mantissa / 2 ^ k) with h | h <;> simp [h]

theorem roundedMantissa_cases (em : ExtendedMantissa) :
    (em.roundBit = false → em.roundedMantissa = em.mantissa) ∧
    (em.roundBit = true → em.mantissa % 2 = 1 → em.roundedMantissa = em.mantissa + 1) ∧
    em.mantissa ≤ em.roundedMantissa ∧ em.roundedMantissa ≤ em.mantissa + 1 := by
  obtain ⟨m, _ | _, _ | _⟩ := em <;>
    simp [ExtendedMantissa.roundedMantissa, ExtendedMantissa.accuracy, Accuracy.roundToNearestEven]
  omega

theorem pack_unpack_zero (s : Sign) : (Float.Model.pack (.zero s)).unpack.isFinite = true := by
  cases s <;> decide

theorem pack_unpack_infinity (s : Sign) : (Float.Model.pack (.infinity s)).unpack.isFinite = false := by
  cases s <;> decide

/-- What a word says as a double: nothing finite if all bits of its exponent are set, else zero or a mantissa
that fits with the exponent, of which there is none below the one that stands for a zero exponent. -/
theorem unpack_cases (b : BitVec 64) :
    (@unpackExponent Format.binary64 b = -1#11 ∧
      (UnpackedFloat.unpack Format.binary64 b).isFinite = false) ∨
    @unpackExponent Format.binary64 b ≠ -1#11 ∧
      ((∃ s, UnpackedFloat.unpack Format.binary64 b = .zero s) ∨
        ∃ s m e hm, UnpackedFloat.unpack Format.binary64 b = .finite s m e hm ∧ m < 2 ^ 53 ∧
          e ≤ max (((@unpackExponent Format.binary64 b).toNat : ℤ) - 1075) (-1074)) := by
  have hbias : (Format.binary64.exponentBias : ℤ) + Format.binary64.mantissaBitsWithoutImplicit = 1075 := rfl
  by_cases hones : @unpackExponent Format.binary64 b = -1#11
  · refine .inl ⟨hones, ?_⟩
    by_cases hzero : @unpackMantissa Format.binary64 b = 0#52
    · exact congrArg UnpackedFloat.isFinite ((if_pos hones).trans (if_pos hzero))
    · exact congrArg UnpackedFloat.isFinite ((if_pos hones).trans (if_neg hzero))
  · refine .inr ⟨hones, ?_⟩
    by_cases hexponent : @unpackExponent Format.binary64 b = 0#11
    · by_cases hzero : @unpackMantissa Format.binary64 b = 0#52
      · exact .inl ⟨_, (if_neg hones).trans ((if_pos hexponent).trans (dif_pos hzero))⟩
      · refine .inr ⟨_, _, _, _, (if_neg hones).trans ((if_pos hexponent).trans (dif_neg hzero)), ?_, ?_⟩
        · exact (BitVec.isLt _).trans (by decide)
        · rw [hexponent, hbias, BitVec.toNat_zero]
          omega
    · refine .inr ⟨_, _, _, _, (if_neg hones).trans (if_neg hexponent), BitVec.isLt _, ?_⟩
      rw [hbias]
      exact le_max_left ..

theorem isFinite_unpack_iff (b : BitVec 64) :
    (UnpackedFloat.unpack Format.binary64 b).isFinite = true ↔
      @unpackExponent Format.binary64 b ≠ -1#11 := by
  rcases unpack_cases b with ⟨hones, hb⟩ | ⟨hones, ⟨s, hb⟩ | ⟨s, m, e, hm, hb, -⟩⟩
  · exact iff_of_false (by rw [hb]; decide) (not_not.mpr hones)
  · exact iff_of_true (by rw [hb]; rfl) hones
  · exact iff_of_true (by rw [hb]; rfl) hones

/-- How a rounded number is packed: with the exponent as it is, with that of zero where the mantissa has not
all its bits, and as an infinity where the exponent is too large. -/
theorem pack_finite (s : Sign) (m : ℕ) (e : ℤ) (hm : 0 < m) :
    UnpackedFloat.pack Format.binary64 (.finite s m e hm) =
      if 2 ^ 11 ≤ (e + (1023 : ℕ) + (52 : ℕ)).toNat + 1 then packedInfinity Format.binary64 s
      else if m.log2 + 1 = 53 then packComponents Format.binary64 s
        (BitVec.ofNat 11 (e + (1023 : ℕ) + (52 : ℕ)).toNat) (BitVec.ofNat 52 m)
      else packComponents Format.binary64 s 0#11 (BitVec.ofNat 52 m) := rfl

theorem isFinite_pack_finite {s : Sign} {m : ℕ} {e : ℤ} {hm : 0 < m} :
    (Float.Model.pack (.finite s m e hm)).unpack.isFinite = true ↔ e ≤ 971 := by
  refine (isFinite_unpack_iff _).trans ?_
  show unpackExponent (UnpackedFloat.pack Format.binary64 (.finite s m e hm)) ≠ _ ↔ _
  rw [pack_finite]
  split <;> rename_i hlarge
  · rw [packedInfinity, unpackExponent_packComponents]
    exact iff_of_false (not_not.mpr rfl) (by omega)
  · have hsmall : e ≤ 971 := by omega
    split
    · rw [unpackExponent_packComponents]
      refine iff_of_true (fun hones => hlarge ?_) hsmall
      have hvalue := congrArg BitVec.toNat hones
      rw [BitVec.toNat_ofNat, show (-1#11 : BitVec 11).toNat = 2047 from rfl] at hvalue
      omega
    · rw [unpackExponent_packComponents]
      exact iff_of_true (by decide) hsmall

/-! ### Rounding -/

theorem targetExponent_eq (m : ℕ) (e : ℤ) :
    Format.binary64.targetExponent (totalExponent m e) = max (m.log2 + e - 52) (-1074) := by
  have hbits : Format.binary64.mantissaBits = 53 := rfl
  have hmin : Format.binary64.minExponent = -1074 := rfl
  rw [Format.targetExponent, totalExponent, hbits, hmin]
  omega

theorem ofMantissaAndAccuracy_mantissa (m : ℕ) (acc : Accuracy) :
    (ExtendedMantissa.ofMantissaAndAccuracy m acc).mantissa = m := by
  obtain _ | _ | _ | _ := acc <;> rfl

theorem shiftToTargetExponent_of_lt {m : ℕ} {e : ℤ} (hm : m < 2 ^ 53) (he : -1074 ≤ e) :
    shiftToTargetExponent Format.binary64 m e .exact = (⟨m, false, false⟩, e) := by
  have hlog : m.log2 ≤ 52 := by
    by_cases hzero : m = 0
    · simp [hzero]
    · exact Nat.le_of_lt_succ ((Nat.log2_lt hzero).mpr hm)
  have hshift : (Format.binary64.targetExponent (totalExponent m e) - e).toNat = 0 := by
    rw [targetExponent_eq]
    omega
  rw [shiftToTargetExponent, shiftToExponent, hshift]
  exact Prod.ext rfl (Int.add_zero e)

/-- A mantissa that rounding carried over by one bit is shifted back by one. -/
theorem shiftToTargetExponent_carry {e : ℤ} (he : -1074 ≤ e) :
    shiftToTargetExponent Format.binary64 (2 ^ 53) e .exact = (⟨2 ^ 52, false, false⟩, e + 1) := by
  have hshift : (Format.binary64.targetExponent (totalExponent (2 ^ 53) e) - e).toNat = 1 := by
    rw [targetExponent_eq, Nat.log2_two_pow]
    omega
  rw [shiftToTargetExponent, shiftToExponent, hshift]
  rfl

section

variable (s : Sign) (m : ℕ) (e : ℤ) (acc : Accuracy)

/-- The first shift of rounding leaves what the number has above the exponent that it is shifted to. -/
theorem mantissa_shiftToTargetExponent :
    (shiftToTargetExponent Format.binary64 m e acc).1.mantissa =
      m / 2 ^ (max (m.log2 + e - 52) (-1074) - e).toNat := by
  rw [shiftToTargetExponent, shiftToExponent, targetExponent_eq, mantissa_shift,
    ofMantissaAndAccuracy_mantissa]

theorem exponent_shiftToTargetExponent :
    (shiftToTargetExponent Format.binary64 m e acc).2 = max e (max (m.log2 + e - 52) (-1074)) := by
  rw [shiftToTargetExponent, shiftToExponent, targetExponent_eq]
  dsimp only
  omega

theorem mantissa_shiftToTargetExponent_lt :
    (shiftToTargetExponent Format.binary64 m e acc).1.mantissa < 2 ^ 53 := by
  rw [mantissa_shiftToTargetExponent, Nat.div_lt_iff_lt_mul (Nat.two_pow_pos _), ← pow_add]
  exact Nat.lt_of_lt_of_le Nat.lt_log2_self (Nat.pow_le_pow_right (by decide) (by omega))

variable {s m e acc} {em : ExtendedMantissa} {e₁ : ℤ}

/-- A number is shifted, rounded and shifted again. -/
theorem roundWithAccuracy_of_shifts {em' : ExtendedMantissa} {e₂ : ℤ}
    (hfirst : shiftToTargetExponent Format.binary64 m e acc = (em, e₁))
    (hsecond : shiftToTargetExponent Format.binary64 em.roundedMantissa e₁ .exact = (em', e₂)) :
    roundWithAccuracy Format.binary64 s m e acc =
      if h : em'.mantissa = 0 then .zero s
      else .finite s em'.mantissa e₂ (Nat.pos_of_ne_zero h) := by
  unfold roundWithAccuracy
  rw [hfirst]
  show (match shiftToTargetExponent Format.binary64 em.roundedMantissa e₁ .exact with
    | (em', e₂) => if h : em'.mantissa = 0 then UnpackedFloat.zero s
      else .finite s em'.mantissa e₂ (Nat.pos_of_ne_zero h)) = _
  rw [hsecond]

/-- **Rounding** comes to zero, to the rounded mantissa, or to that carried over. -/
theorem roundWithAccuracy_eq (hfirst : shiftToTargetExponent Format.binary64 m e acc = (em, e₁)) :
    roundWithAccuracy Format.binary64 s m e acc =
      if h : em.roundedMantissa = 0 then .zero s
      else if em.roundedMantissa < 2 ^ 53 then .finite s em.roundedMantissa e₁ (Nat.pos_of_ne_zero h)
      else .finite s (2 ^ 52) (e₁ + 1) (by decide) := by
  have hmantissa : em.mantissa < 2 ^ 53 := by
    simpa only [hfirst] using mantissa_shiftToTargetExponent_lt m e acc
  have hlow : -1074 ≤ e₁ := by
    have hexponent := exponent_shiftToTargetExponent m e acc
    rw [hfirst] at hexponent
    omega
  have hle := (roundedMantissa_cases em).2.2.2
  by_cases hlt : em.roundedMantissa < 2 ^ 53
  · rw [roundWithAccuracy_of_shifts hfirst (shiftToTargetExponent_of_lt hlt hlow)]
    by_cases hzero : em.roundedMantissa = 0
    · rw [dif_pos hzero, dif_pos hzero]
    · rw [dif_neg hzero, dif_neg hzero, if_pos hlt]
  · have hcarry : em.roundedMantissa = 2 ^ 53 := by omega
    rw [roundWithAccuracy_of_shifts hfirst (hcarry ▸ shiftToTargetExponent_carry hlow), hcarry]
    rfl

/-- Rounding overflows above the largest exponent, and at it when the mantissa is carried over. -/
theorem isFinite_round_cases (hfirst : shiftToTargetExponent Format.binary64 m e acc = (em, e₁)) :
    (Float.Model.pack (roundWithAccuracy Format.binary64 s m e acc)).unpack.isFinite = true ↔
      em.roundedMantissa = 0 ∨ e₁ ≤ 970 ∨ e₁ = 971 ∧ em.roundedMantissa < 2 ^ 53 := by
  rw [roundWithAccuracy_eq hfirst]
  by_cases hzero : em.roundedMantissa = 0
  · rw [dif_pos hzero]
    exact iff_of_true (pack_unpack_zero s) (.inl hzero)
  · rw [dif_neg hzero]
    by_cases hlt : em.roundedMantissa < 2 ^ 53
    · rw [if_pos hlt, isFinite_pack_finite]
      omega
    · rw [if_neg hlt, isFinite_pack_finite]
      omega

theorem two_pow_le_div {a n : ℕ} (hm : m ≠ 0) (h : a + n ≤ m.log2) : 2 ^ a ≤ m / 2 ^ n := by
  rw [Nat.le_div_iff_mul_le (Nat.two_pow_pos n), ← pow_add]
  exact (Nat.pow_le_pow_right (by decide) h).trans (Nat.log2_self_le hm)

theorem div_lt_two_pow {a n : ℕ} (h : m.log2 < a + n) : m / 2 ^ n < 2 ^ a := by
  rw [Nat.div_lt_iff_lt_mul (Nat.two_pow_pos n), ← pow_add]
  exact Nat.lt_of_lt_of_le Nat.lt_log2_self (Nat.pow_le_pow_right (by decide) h)

/-- At the largest exponent rounding carries over what is the largest mantissa and a half, or more. -/
theorem roundedMantissa_lt_iff (acc : Accuracy) {n : ℕ} (h : m / 2 ^ n < 2 ^ 54) :
    (ExtendedMantissa.ofMantissaAndAccuracy m acc >>> (n + 1)).roundedMantissa < 2 ^ 53 ↔
      m / 2 ^ n < 2 ^ 54 - 1 := by
  have hmantissa := mantissa_shift (.ofMantissaAndAccuracy m acc) (n + 1)
  have hround := roundBit_shift (.ofMantissaAndAccuracy m acc) n
  obtain ⟨hdown, hup, hle, hge⟩ :=
    roundedMantissa_cases (ExtendedMantissa.ofMantissaAndAccuracy m acc >>> (n + 1))
  rw [ofMantissaAndAccuracy_mantissa, pow_succ, ← Nat.div_div_eq_div_mul] at hmantissa
  rw [ofMantissaAndAccuracy_mantissa] at hround
  rw [hmantissa, hround] at hup hdown
  rw [hmantissa] at hle hge
  by_cases hodd : m / 2 ^ n % 2 = 1
  · have hrounded := hup (decide_eq_true hodd)
    omega
  · have hrounded := hdown (decide_eq_false hodd)
    omega

/-- **A rounded number is finite** just when it is below the largest finite double and half of its last
place more. -/
theorem isFinite_round_iff (he : e ≤ 970) :
    (Float.Model.pack (roundWithAccuracy Format.binary64 s m e acc)).unpack.isFinite = true ↔
      m < (2 ^ 54 - 1) * 2 ^ (970 - e).toNat := by
  obtain ⟨n, hn⟩ : ∃ n : ℕ, 970 - e = n := ⟨(970 - e).toNat, by omega⟩
  rw [isFinite_round_cases Prod.mk.eta.symm, hn, Int.toNat_natCast,
    ← Nat.div_lt_iff_lt_mul (Nat.two_pow_pos n), exponent_shiftToTargetExponent]
  -- The number is shifted to the exponent that its leading bit calls for: one below the largest, where even
  -- a carry does no harm, the largest itself, or one beyond it.
  by_cases hlow : m.log2 + e - 52 ≤ 970
  · have hdiv := div_lt_two_pow (m := m) (a := 53) (n := n) (by omega)
    exact iff_of_true (.inr (.inl (by omega))) (by omega)
  · have hm : m ≠ 0 := by
      rintro rfl
      rw [Nat.log2_zero] at hlow
      omega
    have hpos : (shiftToTargetExponent Format.binary64 m e acc).1.roundedMantissa ≠ 0 := by
      have hle := (roundedMantissa_cases (shiftToTargetExponent Format.binary64 m e acc).1).2.2.1
      rw [mantissa_shiftToTargetExponent] at hle
      have hbig := two_pow_le_div (a := 52) (n := (max (m.log2 + e - 52) (-1074) - e).toNat) hm (by omega)
      omega
    by_cases htop : m.log2 + e - 52 = 971
    · have hdiv := div_lt_two_pow (m := m) (a := 54) (n := n) (by omega)
      have hshift : (shiftToTargetExponent Format.binary64 m e acc).1 =
          ExtendedMantissa.ofMantissaAndAccuracy m acc >>> (n + 1) := by
        have hamount : (max (m.log2 + e - 52) (-1074) - e).toNat = n + 1 := by omega
        rw [shiftToTargetExponent, shiftToExponent, targetExponent_eq, hamount]
      rw [← roundedMantissa_lt_iff acc hdiv, ← hshift]
      omega
    · have hbig := two_pow_le_div (a := 54) (n := n) hm (by omega)
      exact iff_of_false (by omega) (by omega)

end

/-! ### Products and quotients -/

section

variable {s₁ s₂ : Sign} {m₁ m₂ : ℕ} {e₁ e₂ : ℤ} {h₁ : 0 < m₁} {h₂ : 0 < m₂}

/-- **A product** is finite just when the exact one is below the limit. -/
theorem isFinite_mul_iff (he : e₁ + e₂ ≤ 970) :
    (Float.Model.pack (mul Format.binary64 (.finite s₁ m₁ e₁ h₁) (.finite s₂ m₂ e₂ h₂))).unpack.isFinite =
      true ↔ m₁ * m₂ < (2 ^ 54 - 1) * 2 ^ (970 - (e₁ + e₂)).toNat :=
  isFinite_round_iff he

/-- **A quotient** is finite just when the exact one is below the limit: what the division drops is less than
one in the last of the bits it keeps. -/
theorem isFinite_div_iff (he : e₁ - e₂ ≤ 970) :
    (Float.Model.pack (div Format.binary64 (.finite s₁ m₁ e₁ h₁) (.finite s₂ m₂ e₂ h₂))).unpack.isFinite =
      true ↔ m₁ < (2 ^ 54 - 1) * 2 ^ (970 - (e₁ - e₂)).toNat * m₂ := by
  show (Float.Model.pack (roundWithAccuracy Format.binary64 (s₁ / s₂)
    (m₁ <<< (e₁ - e₂ - min (e₁ - e₂) (Format.binary64.targetExponent _)).toNat / m₂)
    (min (e₁ - e₂) (Format.binary64.targetExponent _)) _)).unpack.isFinite = true ↔ _
  generalize Format.binary64.targetExponent _ = target
  obtain ⟨k, hk⟩ : ∃ k : ℕ, min (e₁ - e₂) target = e₁ - e₂ - k :=
    ⟨(e₁ - e₂ - min (e₁ - e₂) target).toNat, by omega⟩
  have hshift : (e₁ - e₂ - (e₁ - e₂ - k)).toNat = k := by omega
  have hpow : (970 - (e₁ - e₂ - k)).toNat = (970 - (e₁ - e₂)).toNat + k := by omega
  rw [hk, hshift, isFinite_round_iff (by omega), hpow, Nat.div_lt_iff_lt_mul h₂, Nat.shiftLeft_eq, pow_add]
  have hassoc : (2 ^ 54 - 1) * (2 ^ (970 - (e₁ - e₂)).toNat * 2 ^ k) * m₂ =
      (2 ^ 54 - 1) * 2 ^ (970 - (e₁ - e₂)).toNat * m₂ * 2 ^ k := by ring
  rw [hassoc, Nat.mul_lt_mul_right (Nat.two_pow_pos k)]

end

/-! ### Numbers without large exponents -/

/-- A number of at most 53 bits whose exponent is at most so large, or zero. -/
def AtMost (top : ℤ) : UnpackedFloat → Prop
  | .zero _ => True
  | .finite _ m e _ => m < 2 ^ 53 ∧ e ≤ top
  | _ => False

theorem atMost_unpack {b : BitVec 64} {top : ℤ} (htop : -1074 ≤ top)
    (h : ((@unpackExponent Format.binary64 b).toNat : ℤ) ≤ top + 1075)
    (hones : @unpackExponent Format.binary64 b ≠ -1#11) :
    AtMost top (UnpackedFloat.unpack Format.binary64 b) := by
  rcases unpack_cases b with ⟨h', -⟩ | ⟨-, ⟨s, hb⟩ | ⟨s, m, e, hm, hb, hlt, hle⟩⟩
  · exact absurd h' hones
  · rw [hb]
    trivial
  · rw [hb]
    exact ⟨hlt, by omega⟩

theorem unpackExponent_pack_le {m : ℕ} {e : ℤ} (s : Sign) (hm : 0 < m) (he : e ≤ 971) :
    (unpackExponent (UnpackedFloat.pack Format.binary64 (.finite s m e hm))).toNat ≤ (e + 1075).toNat := by
  rw [pack_finite]
  split
  · omega
  · split
    · rw [unpackExponent_packComponents, BitVec.toNat_ofNat]
      exact (Nat.mod_le _ _).trans (by omega)
    · rw [unpackExponent_packComponents]
      exact Nat.zero_le _

theorem atMost_unpack_pack {top : ℤ} (htop : -1074 ≤ top) (hlimit : top ≤ 971) {x : UnpackedFloat}
    (h : AtMost top x) : AtMost top (Float.Model.pack x).unpack := by
  cases x with
  | zero s => cases s <;> exact trivial
  | finite s m e hm =>
    obtain ⟨-, he⟩ := h
    have hexponent := unpackExponent_pack_le s hm (he.trans hlimit)
    refine atMost_unpack htop ?_ ((isFinite_unpack_iff _).mp (isFinite_pack_finite.mpr (he.trans hlimit)))
    exact (Int.ofNat_le.mpr hexponent).trans (by omega)
  | infinity s => exact h.elim
  | notANumber => exact h.elim

theorem atMost_toFloat {m : ℕ} (h : m < 2 ^ 53) : AtMost 0 m.toUInt64.toFloat.toModel.unpack := by
  refine atMost_unpack_pack (by decide) (by decide) ?_
  have hm : m.toUInt64.toNat = m := by
    rw [Nat.toUInt64_eq, UInt64.toNat_ofNat']
    exact Nat.mod_eq_of_lt (h.trans (by decide))
  show AtMost 0 (UnpackedFloat.normalize Format.binary64 (m.toUInt64.toNat : ℤ) 0 .positive)
  rw [hm]
  by_cases hzero : m = 0
  · rw [hzero]
    exact trivial
  · have hcompare : compare (m : ℤ) 0 = .gt := compare_gt_iff_gt.mpr (by omega)
    have hlog : m.log2 ≤ 52 := Nat.le_of_lt_succ ((Nat.log2_lt hzero).mpr h)
    have hshift : (0 - max ((m.log2 : ℤ) + 0 - 52) (-1074)).toNat = 52 - m.log2 := by omega
    have hmantissa : m <<< (52 - m.log2) < 2 ^ 53 := by
      rw [Nat.shiftLeft_eq]
      calc m * 2 ^ (52 - m.log2) < 2 ^ (m.log2 + 1) * 2 ^ (52 - m.log2) :=
            Nat.mul_lt_mul_of_pos_right Nat.lt_log2_self (Nat.two_pow_pos _)
        _ = 2 ^ 53 := by
          rw [← pow_add]
          congr 1
          omega
    have hfirst := shiftToTargetExponent_of_lt (e := 0 - (52 - m.log2 : ℕ)) hmantissa (by omega)
    unfold UnpackedFloat.normalize
    rw [hcompare]
    show AtMost 0 (UnpackedFloat.round Format.binary64 .positive m 0)
    unfold UnpackedFloat.round decreaseExponent
    dsimp only
    have hrounded := (roundedMantissa_cases ⟨m <<< (52 - m.log2), false, false⟩).1 rfl
    rw [targetExponent_eq, hshift, roundWithAccuracy_eq hfirst, hrounded]
    by_cases hnone : m <<< (52 - m.log2) = 0
    · rw [dif_pos hnone]
      trivial
    · rw [dif_neg hnone, if_pos hmantissa]
      exact ⟨hmantissa, by omega⟩

theorem isFinite_mul_of_atMost {x : UnpackedFloat} (hx : AtMost 0 x) {s : Sign} {m : ℕ} {e : ℤ} {h : 0 < m}
    (hm : m < 2 ^ 53) (he : e ≤ 21) :
    (Float.Model.pack (mul Format.binary64 x (.finite s m e h))).unpack.isFinite = true := by
  cases x with
  | zero s' => exact pack_unpack_zero _
  | finite s' m' e' h' =>
    obtain ⟨hm', he'⟩ := hx
    rw [isFinite_mul_iff (by omega)]
    calc m' * m < 2 ^ 53 * 2 ^ 53 := Nat.mul_lt_mul'' hm' hm
      _ ≤ (2 ^ 54 - 1) * 2 ^ 53 := by decide
      _ ≤ (2 ^ 54 - 1) * 2 ^ (970 - (e' + e)).toNat :=
        Nat.mul_le_mul_left _ (Nat.pow_le_pow_right (by decide) (by omega))
  | infinity s' => exact hx.elim
  | notANumber => exact hx.elim

theorem isFinite_div_of_atMost {x : UnpackedFloat} (hx : AtMost 0 x) {s : Sign} {m : ℕ} {e : ℤ} {h : 0 < m}
    (he : -52 ≤ e) : (Float.Model.pack (div Format.binary64 x (.finite s m e h))).unpack.isFinite = true := by
  cases x with
  | zero s' => exact pack_unpack_zero _
  | finite s' m' e' h' =>
    obtain ⟨hm', he'⟩ := hx
    rw [isFinite_div_iff (by omega)]
    calc m' < 2 ^ 53 := hm'
      _ ≤ (2 ^ 54 - 1) * 1 * 1 := by decide
      _ ≤ (2 ^ 54 - 1) * 2 ^ (970 - (e' - e)).toNat * m := by gcongr; exacts [Nat.one_le_two_pow, h]
  | infinity s' => exact hx.elim
  | notANumber => exact hx.elim

end RaftMysql.Decimal
