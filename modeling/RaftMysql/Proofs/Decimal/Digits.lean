import Mathlib.Tactic.Common
import RaftMysql.Decimal.Literal

/-!
# Digits

The digits that a number is written with are digits and stand for it (`isDigit_toDigits`,
`numeral_toDigits`).
-/

namespace RaftMysql.Decimal

theorem isDigit_iff {c : Char} : isDigit c = true ↔ 48 ≤ c.toNat ∧ c.toNat ≤ 57 := by
  unfold isDigit
  rw [Bool.and_eq_true, decide_eq_true_eq, decide_eq_true_eq]
  exact Iff.rfl

theorem ne_of_isDigit {c d : Char} (hc : isDigit c = true) (hd : isDigit d = false) : c ≠ d := by
  rintro rfl
  exact Bool.noConfusion (hc.symm.trans hd)

theorem isDigit_toDigits (n : ℕ) : ∀ d ∈ Nat.toDigits 10 n, isDigit d = true :=
  fun _ hd => Nat.isDigit_of_mem_toDigits (by decide) (by decide) hd

theorem toString_natCast (n : ℕ) : toString (n : Int) = String.ofList (Nat.toDigits 10 n) :=
  Nat.toString_eq_ofList_toDigits

theorem numeral_eq_ofDigitChars (cs : List Char) : numeral cs = Nat.ofDigitChars 10 cs 0 := by
  unfold numeral Nat.ofDigitChars
  congr
  funext n d
  rw [Nat.mul_comm]
  rfl

theorem numeral_toDigits (n : ℕ) : numeral (Nat.toDigits 10 n) = n := by
  rw [numeral_eq_ofDigitChars, Nat.ofDigitChars_ten_toDigits]

end RaftMysql.Decimal
