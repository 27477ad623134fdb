import Mathlib.Data.List.TakeWhile
import Mathlib.Tactic.Common
import RaftMysql.Text.Blank

/-!
# White space around a text

A text that neither begins nor ends with white space is what trimming leaves just when it stands there with
nothing but white space around it (`trimBlankList_eq_iff`).
-/

namespace RaftMysql.Text

/-- Between the space and the next script that has a blank of its own there are two blanks only. -/
theorem isBlank_eq_false {c : Char} (hlow : 0x20 < c.toNat) (hhigh : c.toNat < 0x1680)
    (hline : c.toNat ≠ 0x85) (hspace : c.toNat ≠ 0xA0) : isBlank c = false := by
  rw [Bool.eq_false_iff]
  intro hblank
  simp only [isBlank, blankRanges, List.any_cons, List.any_nil, Bool.or_eq_true, Bool.and_eq_true,
    decide_eq_true_eq, Bool.or_false] at hblank
  omega

/-- The text stands in another one with white space before and after it. -/
def Within (text cs : List Char) : Prop :=
  ∃ left right : List Char, (∀ c ∈ left, isBlank c = true) ∧ (∀ c ∈ right, isBlank c = true) ∧
    left ++ (text ++ right) = cs

theorem dropWhile_isBlank {left text : List Char} (h : ∀ c ∈ left, isBlank c = true)
    (hhead : ∃ c, text.head? = some c ∧ isBlank c = false) : (left ++ text).dropWhile isBlank = text := by
  obtain ⟨c, hc, hblank⟩ := hhead
  obtain ⟨rest, rfl⟩ := List.head?_eq_some_iff.mp hc
  rw [List.dropWhile_append_of_pos h, List.dropWhile_cons_of_neg (by simp [hblank])]

theorem trimBlankList_eq_iff {text cs : List Char} (hhead : ∃ c, text.head? = some c ∧ isBlank c = false)
    (hlast : ∃ c, text.getLast? = some c ∧ isBlank c = false) :
    trimBlankList cs = text ↔ Within text cs := by
  unfold trimBlankList
  constructor
  · rintro rfl
    refine ⟨cs.takeWhile isBlank, ((cs.dropWhile isBlank).reverse.takeWhile isBlank).reverse,
      fun c hc => List.mem_takeWhile_imp hc, fun c hc => List.mem_takeWhile_imp (List.mem_reverse.mp hc), ?_⟩
    rw [← List.reverse_append, List.takeWhile_append_dropWhile, List.reverse_reverse,
      List.takeWhile_append_dropWhile]
  · rintro ⟨left, right, hleft, hright, rfl⟩
    have hhead' : ∃ c, (text ++ right).head? = some c ∧ isBlank c = false := by
      obtain ⟨c, hc, hblank⟩ := hhead
      exact ⟨c, by rw [List.head?_append, hc, Option.some_or], hblank⟩
    rw [dropWhile_isBlank hleft hhead', List.reverse_append, dropWhile_isBlank, List.reverse_reverse]
    · exact fun c hc => hright c (List.mem_reverse.mp hc)
    · simpa using hlast

end RaftMysql.Text
