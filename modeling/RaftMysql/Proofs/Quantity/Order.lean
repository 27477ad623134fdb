import Mathlib.Data.Prod.Lex
import RaftMysql.Quantity

/-!
# Amounts in order

A double that is a number has a place in a linear order: by its side of zero, and on either side by
exponent and mantissa (`Quantity.place?`). Doubles are compared as their places are
(`Quantity.compare_eq`), so one amount that is larger than another is also larger than all that the
other is larger than, and than all that are the same as the other (`Quantity.isLarger_trans`,
`Quantity.isLarger_of_isSame`).
-/

namespace RaftMysql.Quantity

open Float.Model

/-! ### Doubles -/

/-- The place of a double among all that are numbers. The two zeros share theirs. -/
def place? : UnpackedFloat → Option (ℤ ×ₗ ℤ ×ₗ ℤ)
  | .notANumber => none
  | .infinity .negative => some (toLex (-2, toLex (0, 0)))
  | .finite .negative m e _ => some (toLex (-1, toLex (-e, -m)))
  | .zero _ => some (toLex (0, toLex (0, 0)))
  | .finite .positive m e _ => some (toLex (1, toLex (e, m)))
  | .infinity .positive => some (toLex (2, toLex (0, 0)))

/-- Of two finite doubles on one side of zero the exponents decide, and then the mantissas. -/
theorem then_compare (e e' : ℤ) (m m' : ℕ) :
    (compareOfLessAndEq e e').then (compareOfLessAndEq m m') =
      if e < e' ∨ e = e' ∧ m < m' then .lt
      else if e' < e ∨ e' = e ∧ m' < m then .gt else .eq := by
  unfold compareOfLessAndEq
  rcases lt_trichotomy e e' with he | rfl | he
  · simp [he]
  · simp
    grind
  · simp [he, he.not_gt, he.ne']

theorem compare_eq (x y : UnpackedFloat) :
    x.compare y = (place? x).bind fun p => (place? y).map (cmp p) := by
  -- Unless both are finite and on one side of zero, their sides tell how they compare.
  rcases x with (_ | _) | _ | _ | ⟨_ | _, m, e, hm⟩ <;>
    rcases y with (_ | _) | _ | _ | ⟨_ | _, m', e', hm'⟩ <;> try rfl
  · -- Below zero the greater exponent and mantissa stand first.
    show some ((compareOfLessAndEq e e').then (compareOfLessAndEq m m')).swap =
      some (cmpUsing (· < ·) (toLex ((-1 : ℤ), toLex (-e, -(m : ℤ))))
        (toLex ((-1 : ℤ), toLex (-e', -(m' : ℤ)))))
    rw [then_compare]
    simp only [cmpUsing, Prod.Lex.lt_iff, ofLex_toLex]
    grind [Ordering.swap]
  · show some ((compareOfLessAndEq e e').then (compareOfLessAndEq m m')) =
      some (cmpUsing (· < ·) (toLex ((1 : ℤ), toLex (e, (m : ℤ)))) (toLex ((1 : ℤ), toLex (e', (m' : ℤ)))))
    rw [then_compare]
    simp only [cmpUsing, Prod.Lex.lt_iff, ofLex_toLex]
    grind

theorem lt_iff {a b : Float} : a < b ↔
    ∃ p ∈ place? a.toModel.unpack, ∃ q ∈ place? b.toModel.unpack, p < q := by
  have hcompare : a < b ↔ a.toModel.unpack.compare b.toModel.unpack = some .lt := by
    show decide (a.toModel < b.toModel) = true ↔ _
    rw [decide_eq_true_iff]
    show (a.toModel.unpack.compare b.toModel.unpack == some .lt) = true ↔ _
    simp
  rw [hcompare, compare_eq, Option.bind_eq_some_iff]
  refine exists_congr fun p => and_congr_right fun _ => ?_
  rw [Option.map_eq_some_iff]
  exact exists_congr fun q => and_congr_right fun _ => cmp_eq_lt_iff p q

theorem beq_iff {a b : Float} : (a == b) = true ↔
    ∃ p ∈ place? a.toModel.unpack, place? b.toModel.unpack = some p := by
  have hcompare : (a == b) = true ↔ a.toModel.unpack.compare b.toModel.unpack = some .eq := by
    show (a.toModel.unpack.compare b.toModel.unpack == some .eq) = true ↔ _
    simp
  rw [hcompare, compare_eq, Option.bind_eq_some_iff]
  refine exists_congr fun p => and_congr_right fun _ => ?_
  rw [Option.map_eq_some_iff]
  constructor
  · rintro ⟨q, hq, hsame⟩
    rwa [(cmp_eq_eq_iff p q).mp hsame]
  · exact fun hp => ⟨p, hp, cmp_self_eq_eq p⟩

theorem lt_trans {a b d : Float} (h : a < b) (h' : b < d) : a < d := by
  obtain ⟨p, hp, q, hq, hlt⟩ := lt_iff.mp h
  obtain ⟨q', hq', s, hs, hlt'⟩ := lt_iff.mp h'
  obtain rfl := Option.some.inj (hq.symm.trans hq')
  exact lt_iff.mpr ⟨p, hp, s, hs, hlt.trans hlt'⟩

theorem not_lt_self (a : Float) : ¬ a < a := by
  intro h
  obtain ⟨p, hp, q, hq, hlt⟩ := lt_iff.mp h
  obtain rfl := Option.some.inj (hp.symm.trans hq)
  exact hlt.ne rfl

theorem lt_of_beq_of_lt {a b d : Float} (h : (a == b) = true) (h' : b < d) : a < d := by
  obtain ⟨p, hp, hq⟩ := beq_iff.mp h
  obtain ⟨q, hq', s, hs, hlt⟩ := lt_iff.mp h'
  obtain rfl := Option.some.inj (hq.symm.trans hq')
  exact lt_iff.mpr ⟨p, hp, s, hs, hlt⟩

/-! ### Amounts -/

theorem isLarger_iff {new old : String} :
    isLarger new old = true ↔ ∃ a b, read? old = some a ∧ read? new = some b ∧ a < b := by
  unfold isLarger
  constructor
  · intro h
    split at h
    · rename_i b a hnew hold
      exact ⟨a, b, hold, hnew, by simpa using h⟩
    · cases h
  · rintro ⟨a, b, hold, hnew, hlt⟩
    rw [hold, hnew]
    simpa using hlt

theorem isLarger_self (size : String) : isLarger size size = false := by
  rw [Bool.eq_false_iff]
  intro h
  obtain ⟨a, b, ha, hb, hlt⟩ := isLarger_iff.mp h
  obtain rfl := Option.some.inj (ha.symm.trans hb)
  exact not_lt_self a hlt

theorem isLarger_trans {large size small : String} (h : isLarger large size = true)
    (h' : isLarger size small = true) : isLarger large small = true := by
  obtain ⟨a, b, ha, hb, hlt⟩ := isLarger_iff.mp h
  obtain ⟨s, a', hs, ha', hlt'⟩ := isLarger_iff.mp h'
  obtain rfl := Option.some.inj (ha.symm.trans ha')
  exact isLarger_iff.mpr ⟨s, b, hs, hb, lt_trans hlt' hlt⟩

theorem isLarger_of_isSame {large size other : String} (h : isLarger large size = true)
    (hsame : isSame other size = true) : isLarger large other = true := by
  obtain ⟨a, b, ha, hb, hlt⟩ := isLarger_iff.mp h
  unfold isSame at hsame
  rw [ha] at hsame
  split at hsame
  · rename_i x y hx hy
    obtain rfl := Option.some.inj hy
    exact isLarger_iff.mpr ⟨x, b, hx, hb, lt_of_beq_of_lt hsame hlt⟩
  · obtain rfl := beq_iff_eq.mp hsame
    exact h

end RaftMysql.Quantity
