import Mathlib.Tactic.Common
import RaftMysql.Text.Utf8

/-!
# Bytes of texts

The bytes of a character are read as that character, and as many as they are (`step_encode`). So the bytes
of a text are read as that text (`decode?_bytes`).
-/

namespace RaftMysql.Text.Utf8

/-- The bytes of a text. -/
def bytes (s : String) : List UInt8 := s.toUTF8.data.toList

theorem bytes_eq_flatMap (s : String) : bytes s = s.toList.flatMap String.utf8EncodeChar := by
  rw [bytes, String.toUTF8_eq_toByteArray, ← String.utf8Encode_toList, List.utf8Encode,
    List.data_toByteArray, List.toList_toArray]

/-! ### One character -/

theorem toNat_ofNat {n : ℕ} (h : n < 256) : (UInt8.ofNat n).toNat = n := by
  rw [UInt8.toNat_ofNat']
  exact Nat.mod_eq_of_lt h

theorem toNat_valid (c : Char) : c.toNat < 0xD800 ∨ 0xDFFF < c.toNat ∧ c.toNat < 0x110000 := c.valid

/-- What the first of three bytes calls for, and that the one after it is within its bounds: no character
below the first of three bytes is written in so many, and none stands for half a surrogate pair. -/
theorem lead?_three {n : ℕ} (hlow : 0x7FF < n) (h : n ≤ 0xFFFF) (hvalid : n < 0xD800 ∨ 0xDFFF < n) :
    ∃ low high, lead? (n / 4096 % 16 + 224) = some (low, high, 1) ∧
      low ≤ n / 64 % 64 + 128 ∧ n / 64 % 64 + 128 ≤ high := by
  unfold lead?
  rw [if_neg (by omega)]
  by_cases hfirst : n / 4096 % 16 + 224 = 0xE0
  · exact ⟨0xA0, 0xBF, if_pos hfirst, by omega, by omega⟩
  · rw [if_neg hfirst]
    by_cases hsurrogate : n / 4096 % 16 + 224 = 0xED
    · exact ⟨0x80, 0x9F, if_pos hsurrogate, by omega, by omega⟩
    · rw [if_neg hsurrogate]
      exact ⟨0x80, 0xBF, if_pos (by omega), by omega, by omega⟩

/-- What the first of four bytes calls for, and that the one after it is within its bounds: no character
below the first of four bytes is written in so many, and there is none above the last. -/
theorem lead?_four {n : ℕ} (hlow : 0xFFFF < n) (h : n < 0x110000) :
    ∃ low high, lead? (n / 262144 % 8 + 240) = some (low, high, 2) ∧
      low ≤ n / 4096 % 64 + 128 ∧ n / 4096 % 64 + 128 ≤ high := by
  unfold lead?
  rw [if_neg (by omega), if_neg (by omega), if_neg (by omega), if_neg (by omega)]
  by_cases hfirst : n / 262144 % 8 + 240 = 0xF0
  · exact ⟨0x90, 0xBF, if_pos hfirst, by omega, by omega⟩
  · rw [if_neg hfirst]
    by_cases hmiddle : n / 262144 % 8 + 240 ≤ 0xF3
    · exact ⟨0x80, 0xBF, if_pos (by omega), by omega, by omega⟩
    · rw [if_neg (by omega)]
      exact ⟨0x80, 0x8F, if_pos (by omega), by omega, by omega⟩

theorem isContinuation_low (n : ℕ) : isContinuation (n % 64 + 128) = true := by
  simp only [isContinuation, Bool.and_eq_true, decide_eq_true_eq]
  omega

section

variable {c : Char} {rest : List UInt8}

theorem step_one (h : c.toNat ≤ 0x7F) :
    step (UInt8.ofNat c.toNat).toNat rest = (c, true, 1) := by
  have hlt : c.toNat < 0x80 := by omega
  rw [toNat_ofNat (by omega), step, if_pos hlt, Char.ofNat_toNat]

theorem step_two (hlow : 0x7F < c.toNat) (h : c.toNat ≤ 0x7FF) :
    step (UInt8.ofNat (c.toNat / 64 % 32 + 192)).toNat (UInt8.ofNat (c.toNat % 64 + 128) :: rest) =
      (c, true, 2) := by
  have hbounds : 0x80 ≤ c.toNat % 64 + 128 ∧ c.toNat % 64 + 128 ≤ 0xBF := by omega
  have hcode : (c.toNat / 64 % 32 + 192) % 0x20 * 0x40 + (c.toNat % 64 + 128) % 0x40 = c.toNat := by
    omega
  rw [toNat_ofNat (by omega), step, if_neg (by omega), lead?, if_pos (by omega)]
  simp only [toNat_ofNat (show c.toNat % 64 + 128 < 256 by omega), hbounds, and_self, not_true_eq_false,
    if_false, if_true, hcode, Char.ofNat_toNat]

theorem step_three (hlow : 0x7FF < c.toNat) (h : c.toNat ≤ 0xFFFF) :
    step (UInt8.ofNat (c.toNat / 4096 % 16 + 224)).toNat (UInt8.ofNat (c.toNat / 64 % 64 + 128) ::
      UInt8.ofNat (c.toNat % 64 + 128) :: rest) = (c, true, 3) := by
  obtain ⟨low, high, hlead, hbounds⟩ := lead?_three hlow h ((toNat_valid c).imp_right And.left)
  have hcode : (c.toNat / 4096 % 16 + 224) % 0x10 * 0x1000 + (c.toNat / 64 % 64 + 128) % 0x40 * 0x40 +
      (c.toNat % 64 + 128) % 0x40 = c.toNat := by
    omega
  rw [toNat_ofNat (by omega), step, if_neg (by omega), hlead]
  simp only [toNat_ofNat (show c.toNat / 64 % 64 + 128 < 256 by omega),
    toNat_ofNat (show c.toNat % 64 + 128 < 256 by omega), hbounds, and_self, not_true_eq_false,
    isContinuation_low, if_false, if_true, Nat.one_ne_zero, hcode, Char.ofNat_toNat]

theorem step_four (hlow : 0xFFFF < c.toNat) :
    step (UInt8.ofNat (c.toNat / 262144 % 8 + 240)).toNat (UInt8.ofNat (c.toNat / 4096 % 64 + 128) ::
      UInt8.ofNat (c.toNat / 64 % 64 + 128) :: UInt8.ofNat (c.toNat % 64 + 128) :: rest) =
      (c, true, 4) := by
  have hlast : c.toNat < 0x110000 := by
    rcases toNat_valid c with h | h <;> omega
  obtain ⟨low, high, hlead, hbounds⟩ := lead?_four hlow hlast
  have hcode : (c.toNat / 262144 % 8 + 240) % 0x08 * 0x40000 + (c.toNat / 4096 % 64 + 128) % 0x40 * 0x1000 +
      (c.toNat / 64 % 64 + 128) % 0x40 * 0x40 + (c.toNat % 64 + 128) % 0x40 = c.toNat := by
    omega
  rw [toNat_ofNat (by omega), step, if_neg (by omega), hlead]
  simp only [toNat_ofNat (show c.toNat / 4096 % 64 + 128 < 256 by omega),
    toNat_ofNat (show c.toNat / 64 % 64 + 128 < 256 by omega),
    toNat_ofNat (show c.toNat % 64 + 128 < 256 by omega), hbounds, and_self, not_true_eq_false,
    isContinuation_low, if_false, show ¬2 = 0 by decide, show ¬2 = 1 by decide, hcode, Char.ofNat_toNat]

end

/-- **A character** is read from its bytes, however many they are. -/
theorem step_encode (c : Char) : ∃ b bs, String.utf8EncodeChar c = b :: bs ∧
    ∀ rest, step b.toNat (bs ++ rest) = (c, true, bs.length + 1) := by
  unfold String.utf8EncodeChar
  by_cases hone : c.toNat ≤ 0x7F
  · exact ⟨_, [], if_pos hone, fun _ => step_one hone⟩
  by_cases htwo : c.toNat ≤ 0x7FF
  · exact ⟨_, [_], (if_neg hone).trans (if_pos htwo), fun _ => step_two (Nat.lt_of_not_le hone) htwo⟩
  by_cases hthree : c.toNat ≤ 0xFFFF
  · exact ⟨_, [_, _], (if_neg hone).trans ((if_neg htwo).trans (if_pos hthree)),
      fun _ => step_three (Nat.lt_of_not_le htwo) hthree⟩
  · exact ⟨_, [_, _, _], (if_neg hone).trans ((if_neg htwo).trans (if_neg hthree)),
      fun _ => step_four (Nat.lt_of_not_le hthree)⟩

/-! ### A text -/

theorem pieces_skip (bs rest : List UInt8) : pieces bs.length (bs ++ rest) = pieces 0 rest := by
  induction bs with
  | nil => rfl
  | cons b bs ih =>
    rw [List.length_cons, List.cons_append, pieces]
    exact ih

theorem pieces_encode (cs : List Char) :
    pieces 0 (cs.flatMap String.utf8EncodeChar) = cs.map fun c => (c, true) := by
  induction cs with
  | nil => rfl
  | cons c cs ih =>
    obtain ⟨b, bs, hbytes, hstep⟩ := step_encode c
    have hrest := (pieces_skip bs (cs.flatMap String.utf8EncodeChar)).trans ih
    rw [List.flatMap_cons, hbytes, List.cons_append, pieces, hstep]
    exact congrArg ((c, true) :: ·) hrest

/-- **A text is read from its bytes.** -/
theorem decode?_bytes (s : String) : decode? (bytes s) = some s := by
  unfold decode?
  rw [bytes_eq_flatMap, pieces_encode, if_pos (by simp), List.map_map]
  exact congrArg some ((congrArg String.ofList (List.map_id _)).trans String.ofList_toList)

end RaftMysql.Text.Utf8
