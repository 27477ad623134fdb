import RaftMysql.Proofs.Program.Trace

/-!
# Two procedures at the same time

`Interleaved xs ys zs` says that `zs` is made of the elements of `xs` and of `ys`, both in their own
order. For the traces of two procedures it is what an observer sees who watches them run at the same
time, one request after the other.

Where an element of the second has its turn, the first is cut (`Interleaved.exists_cut`,
`Interleaved.exists_last`).
-/

namespace RaftMysql

variable {α : Type}

/-- The third list is made of the first two, each in its own order. -/
inductive Interleaved : List α → List α → List α → Prop
  | nil : Interleaved [] [] []
  | left {x : α} {xs ys zs : List α} (h : Interleaved xs ys zs) : Interleaved (x :: xs) ys (x :: zs)
  | right {y : α} {xs ys zs : List α} (h : Interleaved xs ys zs) :
    Interleaved xs (y :: ys) (y :: zs)

namespace Interleaved

variable {xs ys zs : List α}

theorem left_append (h : Interleaved xs ys zs) (us : List α) :
    Interleaved (us ++ xs) ys (us ++ zs) := by
  induction us with
  | nil => exact h
  | cons u us ih => exact .left ih

theorem append_left (h : Interleaved xs ys zs) (us : List α) :
    Interleaved (xs ++ us) ys (zs ++ us) := by
  induction h with
  | nil =>
    rw [List.nil_append]
    induction us with
    | nil => exact .nil
    | cons u us ih => exact .left ih
  | left h ih => exact .left ih
  | right h ih => exact .right ih

theorem symm (h : Interleaved xs ys zs) : Interleaved ys xs zs := by
  induction h with
  | nil => exact .nil
  | left h ih => exact .right ih
  | right h ih => exact .left ih

theorem eq_of_nil_right (h : Interleaved xs [] zs) : zs = xs := by
  generalize hys : ([] : List α) = ys at h
  induction h with
  | nil => rfl
  | left h ih => rw [ih hys]
  | right h => cases hys

theorem exists_cut {y : α} (h : Interleaved xs (y :: ys) zs) :
    ∃ xs₁ xs₂ zs₂, xs = xs₁ ++ xs₂ ∧ zs = xs₁ ++ y :: zs₂ ∧ Interleaved xs₂ ys zs₂ := by
  generalize hl : y :: ys = l at h
  induction h with
  | nil => cases hl
  | @left x xs _ zs h ih =>
    obtain ⟨xs₁, xs₂, zs₂, rfl, rfl, h₂⟩ := ih hl
    exact ⟨x :: xs₁, xs₂, zs₂, rfl, rfl, h₂⟩
  | @right _ xs _ zs h =>
    obtain ⟨rfl, rfl⟩ := List.cons.inj hl
    exact ⟨[], xs, zs, rfl, rfl, h⟩

theorem exists_last {y : α} (h : Interleaved xs (ys ++ [y]) zs) :
    ∃ xs₁ xs₂ zs₁, xs = xs₁ ++ xs₂ ∧ zs = zs₁ ++ y :: xs₂ ∧ Interleaved xs₁ ys zs₁ := by
  induction ys generalizing xs zs with
  | nil =>
    obtain ⟨xs₁, xs₂, zs₂, rfl, rfl, h₂⟩ := exists_cut h
    rw [h₂.eq_of_nil_right]
    exact ⟨xs₁, xs₂, xs₁, rfl, rfl, by simpa using Interleaved.nil.append_left xs₁⟩
  | cons x ys ih =>
    obtain ⟨xs₁, xs₂, zs₂, rfl, rfl, h₂⟩ := exists_cut h
    obtain ⟨xs₃, xs₄, zs₃, rfl, rfl, h₃⟩ := ih h₂
    exact ⟨xs₁ ++ xs₃, xs₄, xs₁ ++ x :: zs₃, by simp, by simp, (right h₃).left_append xs₁⟩

end Interleaved

end RaftMysql
