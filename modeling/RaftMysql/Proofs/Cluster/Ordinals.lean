import Mathlib.Tactic.Common
import RaftMysql.Cluster.Basic
import RaftMysql.Proofs.Decimal.Digits

/-!
# Names that end in an ordinal

`EndsIn` says that a name ends in a dash and the digits of a number. `ordinal?` reads that number
whatever comes before the dash, and takes a plus sign and zeros at the front of the digits
(`ordinal?_eq_some_iff`). So it reads back the ordinal of every claim of a member
(`ordinal?_claimName`), and finds one in many another name.
-/

namespace RaftMysql

/-- The name ends in a dash and the digits of a number of 31 bits, perhaps with a plus sign. -/
def EndsIn (name : String) (n : Nat) : Prop :=
  ∃ stem sign digits, name.toList = stem ++ '-' :: (sign ++ digits) ∧ (sign = [] ∨ sign = ['+']) ∧
    digits ≠ [] ∧ (∀ d ∈ digits, Decimal.isDigit d = true) ∧ Decimal.numeral digits = n ∧
    n < Nat.pow 2 31

/-! ### The last dash -/

theorem afterLastDash?_append {stem tail : List Char} (h : '-' ∉ tail) :
    afterLastDash? (stem ++ '-' :: tail) = some tail := by
  have htail : ∀ d ∈ tail.reverse, (decide (d ≠ '-')) = true := by
    intro d hd
    refine decide_eq_true ?_
    rintro rfl
    exact h (List.mem_reverse.mp hd)
  have hrev : (stem ++ '-' :: tail).reverse = tail.reverse ++ '-' :: stem.reverse := by simp
  unfold afterLastDash?
  rw [if_pos (by simp), hrev, List.takeWhile_append_of_pos htail, List.takeWhile_cons_of_neg (by simp),
    List.append_nil, List.reverse_reverse]

theorem afterLastDash?_eq_some_iff {cs tail : List Char} :
    afterLastDash? cs = some tail ↔ '-' ∉ tail ∧ ∃ stem, cs = stem ++ '-' :: tail := by
  constructor
  · intro h
    have hmem : '-' ∈ cs := by
      by_contra hnot
      unfold afterLastDash? at h
      rw [if_neg hnot] at h
      cases h
    obtain ⟨last, rest, hrev, hlast⟩ := List.eq_append_cons_of_mem (List.mem_reverse.mpr hmem)
    have hcs : cs = rest.reverse ++ '-' :: last.reverse := by
      rw [← List.reverse_reverse cs, hrev]
      simp
    have hnot : '-' ∉ last.reverse := fun hd => hlast (List.mem_reverse.mp hd)
    rw [hcs, afterLastDash?_append hnot] at h
    obtain rfl := Option.some.inj h
    exact ⟨hnot, rest.reverse, hcs⟩
  · rintro ⟨h, stem, rfl⟩
    exact afterLastDash?_append h

/-! ### Ordinals -/

/-- The number that a row of digits stands for, if it has 31 bits. -/
def smallNumeral? (digits : List Char) : Option Int :=
  if digits ≠ [] ∧ digits.all Decimal.isDigit ∧ Decimal.numeral digits < Nat.pow 2 31 then
    some (Decimal.numeral digits)
  else none

theorem smallNumeral?_eq_some_iff {digits : List Char} {i : Int} :
    smallNumeral? digits = some i ↔ digits ≠ [] ∧ (∀ d ∈ digits, Decimal.isDigit d = true) ∧
      Decimal.numeral digits < Nat.pow 2 31 ∧ i = Decimal.numeral digits := by
  unfold smallNumeral?
  split <;> rename_i h
  · rw [List.all_eq_true] at h
    rw [Option.some.injEq]
    exact ⟨fun hi => ⟨h.1, h.2.1, h.2.2, hi.symm⟩, fun hi => hi.2.2.2.symm⟩
  · rw [List.all_eq_true] at h
    constructor
    · intro hi
      cases hi
    · rintro ⟨hne, hdigits, hlt, -⟩
      exact absurd ⟨hne, hdigits, hlt⟩ h

theorem ordinal?_eq (name : String) : ordinal? name = (afterLastDash? name.toList).bind fun cs =>
    smallNumeral? (match cs with
      | '+' :: ds => ds
      | ds => ds) := rfl

/-- **What an ordinal is**: the number after the last dash, whatever the name is otherwise. -/
theorem ordinal?_eq_some_iff {name : String} {i : Int} :
    ordinal? name = some i ↔ ∃ n : Nat, i = n ∧ EndsIn name n := by
  rw [ordinal?_eq, Option.bind_eq_some_iff]
  constructor
  · rintro ⟨cs, hcs, hi⟩
    obtain ⟨-, stem, hname⟩ := afterLastDash?_eq_some_iff.mp hcs
    split at hi
    · obtain ⟨hne, hdigits, hlt, rfl⟩ := smallNumeral?_eq_some_iff.mp hi
      exact ⟨_, rfl, stem, ['+'], _, hname, .inr rfl, hne, hdigits, rfl, hlt⟩
    · obtain ⟨hne, hdigits, hlt, rfl⟩ := smallNumeral?_eq_some_iff.mp hi
      exact ⟨_, rfl, stem, [], _, hname, .inl rfl, hne, hdigits, rfl, hlt⟩
  · rintro ⟨n, rfl, stem, sign, digits, hname, hsign, hne, hdigits, rfl, hlt⟩
    have hread : smallNumeral? digits = some (Decimal.numeral digits : Int) :=
      smallNumeral?_eq_some_iff.mpr ⟨hne, hdigits, hlt, rfl⟩
    have hdash : '-' ∉ digits := fun hd => Decimal.ne_of_isDigit (hdigits _ hd) rfl rfl
    rcases hsign with rfl | rfl
    · refine ⟨digits, afterLastDash?_eq_some_iff.mpr ⟨hdash, stem, hname⟩, ?_⟩
      split
      · exact absurd rfl (Decimal.ne_of_isDigit (hdigits '+' (by simp)) rfl)
      · exact hread
    · refine ⟨'+' :: digits, afterLastDash?_eq_some_iff.mpr ⟨by simpa using hdash, stem, hname⟩, hread⟩

theorem podName_inj {c : Cluster} {n m : Nat} (h : c.podName n = c.podName m) : n = m := by
  have hdigits : String.ofList (Nat.toDigits 10 n) = String.ofList (Nat.toDigits 10 m) := by
    rw [← Decimal.toString_natCast, ← Decimal.toString_natCast]
    exact (String.append_right_inj _).mp h
  rw [← Decimal.numeral_toDigits n, String.ofList_injective hdigits, Decimal.numeral_toDigits]

theorem ordinal?_of_toList {name : String} {stem : List Char} {n : Nat}
    (h : name.toList = stem ++ '-' :: Nat.toDigits 10 n) :
    ordinal? name = if n < Nat.pow 2 31 then some (n : Int) else none := by
  have hdigits := Decimal.isDigit_toDigits n
  have hread : ordinal? name = smallNumeral? (Nat.toDigits 10 n) := by
    have hdash : '-' ∉ Nat.toDigits 10 n := fun hd => Decimal.ne_of_isDigit (hdigits _ hd) rfl rfl
    rw [ordinal?_eq, h, afterLastDash?_append hdash, Option.bind_some]
    split
    · rename_i ds hds
      have hplus : '+' ∈ Nat.toDigits 10 n := hds ▸ List.mem_cons_self
      exact absurd rfl (Decimal.ne_of_isDigit (hdigits _ hplus) rfl)
    · rfl
  rw [hread]
  split <;> rename_i hn
  · exact smallNumeral?_eq_some_iff.mpr
      ⟨Nat.toDigits_ne_nil, hdigits, by rwa [Decimal.numeral_toDigits], by rw [Decimal.numeral_toDigits]⟩
  · refine if_neg ?_
    rintro ⟨-, -, hlt⟩
    rw [Decimal.numeral_toDigits] at hlt
    exact hn hlt

theorem toList_podName (c : Cluster) (n : Nat) :
    (c.podName n).toList = c.workloadName.toList ++ '-' :: Nat.toDigits 10 n := by
  have hn := Decimal.toString_natCast n
  simp [Cluster.podName, hn]

theorem ordinal?_podName (c : Cluster) (n : Nat) :
    ordinal? (c.podName n) = if n < Nat.pow 2 31 then some (n : Int) else none :=
  ordinal?_of_toList (toList_podName c n)

theorem ordinal?_claimName (c : Cluster) {n : Nat} (hn : n < Nat.pow 2 31) :
    ordinal? (c.claimName n) = some (n : Int) := by
  have hname : (c.claimName n).toList =
      ("data-" ++ c.workloadName).toList ++ '-' :: Nat.toDigits 10 n := by
    simp [Cluster.claimName, toList_podName]
  rw [ordinal?_of_toList hname, if_pos hn]

end RaftMysql
