import Mathlib.Data.List.TakeWhile
import Mathlib.Tactic.Common
import RaftMysql.Proofs.Decimal.Digits

/-!
# Written numbers

A number without sign is written as digits with at most one point among, before or after them, and an
optional exponent (`Numeral`). A text is read as a literal just when it is written so, and the literal is the
one that is written there (`readUnsigned?_eq_some_iff`). A text is written so in one way only
(`Numeral.text_injective`), and both begins and ends with a digit or with the point (`Numeral.head?_text`,
`Numeral.getLast?_text`).
-/

namespace RaftMysql.Decimal

/-! ### Rows of digits -/

section

variable {ds ds' rest rest' : List Char}

/-- What follows begins with no digit. -/
def NoDigit (rest : List Char) : Prop := ∀ c ∈ rest.head?, isDigit c = false

theorem noDigit_cons {c : Char} (h : isDigit c = false) : NoDigit (c :: rest) := by simpa [NoDigit] using h

theorem takeWhile_digits (h : ∀ c ∈ ds, isDigit c = true) (hrest : NoDigit rest) :
    (ds ++ rest).takeWhile isDigit = ds := by
  rw [List.takeWhile_append_of_pos h]
  cases rest with
  | nil => simp
  | cons c rest =>
    have hc : isDigit c = false := hrest c rfl
    rw [List.takeWhile_cons_of_neg (by simp [hc]), List.append_nil]

theorem dropWhile_digits (h : ∀ c ∈ ds, isDigit c = true) (hrest : NoDigit rest) :
    (ds ++ rest).dropWhile isDigit = rest := by
  rw [List.dropWhile_append_of_pos h]
  cases rest with
  | nil => rfl
  | cons c rest =>
    have hc : isDigit c = false := hrest c rfl
    rw [List.dropWhile_cons_of_neg (by simp [hc])]

theorem digits_unique (h : ∀ c ∈ ds, isDigit c = true) (h' : ∀ c ∈ ds', isDigit c = true)
    (hrest : NoDigit rest) (hrest' : NoDigit rest') (heq : ds ++ rest = ds' ++ rest') :
    ds = ds' ∧ rest = rest' := by
  have htake := takeWhile_digits h hrest
  have hdrop := dropWhile_digits h hrest
  rw [heq, takeWhile_digits h' hrest'] at htake
  rw [heq, dropWhile_digits h' hrest'] at hdrop
  exact ⟨htake.symm, hdrop.symm⟩

end

/-! ### Exponents -/

/-- The sign of an exponent, which may be left out. -/
inductive PowerSign where
  | left
  | plus
  | minus

/-- How a sign is written. -/
def PowerSign.text : PowerSign → List Char
  | left => []
  | plus => ['+']
  | minus => ['-']

/-- A number under a sign. -/
def PowerSign.apply : PowerSign → ℕ → ℤ
  | minus, n => -n
  | _, n => n

/-- The exponent of a number, with the letter before it. -/
@[ext] structure Exponent where
  capital : Bool
  sign : PowerSign
  digits : List Char
  isDigit_of_mem : ∀ c ∈ digits, isDigit c = true
  ne_nil : digits ≠ []

namespace Exponent

def letter (e : Exponent) : Char := if e.capital then 'E' else 'e'

/-- How an exponent is written. -/
def text (e : Exponent) : List Char := e.letter :: (e.sign.text ++ e.digits)

/-- The power of ten that it stands for. -/
def value (e : Exponent) : ℤ := e.sign.apply (numeral e.digits)

end Exponent

theorem readExponent?_eq_some_iff {cs : List Char} {p : ℤ} : readExponent? cs = some p ↔
    ∃ (sign : PowerSign) (ds : List Char), (∀ c ∈ ds, isDigit c = true) ∧ ds ≠ [] ∧
      sign.text ++ ds = cs ∧ sign.apply (numeral ds) = p := by
  constructor
  · intro h
    have hdigits {ds : List Char} {value : ℤ}
        (h : (if ds ≠ [] ∧ ds.all isDigit = true then some value else none) = some p) :
        (∀ c ∈ ds, isDigit c = true) ∧ ds ≠ [] ∧ value = p := by
      obtain ⟨⟨hne, hall⟩, hvalue⟩ := Option.ite_none_right_eq_some.mp h
      exact ⟨List.all_eq_true.mp hall, hne, Option.some.inj hvalue⟩
    unfold readExponent? at h
    split at h
    · obtain ⟨hall, hne, hvalue⟩ := hdigits h
      exact ⟨.minus, _, hall, hne, rfl, hvalue⟩
    · obtain ⟨hall, hne, hvalue⟩ := hdigits h
      exact ⟨.plus, _, hall, hne, rfl, hvalue⟩
    · obtain ⟨hall, hne, hvalue⟩ := hdigits h
      exact ⟨.left, _, hall, hne, rfl, hvalue⟩
  · rintro ⟨sign, ds, hall, hne, rfl, rfl⟩
    have hdigits : ds ≠ [] ∧ ds.all isDigit = true := ⟨hne, List.all_eq_true.mpr hall⟩
    cases sign with
    | minus => exact if_pos hdigits
    | plus => exact if_pos hdigits
    | left =>
      obtain ⟨c, ds, rfl⟩ := List.exists_cons_of_ne_nil hne
      have hc := hall c List.mem_cons_self
      show readExponent? (c :: ds) = _
      unfold readExponent?
      split
      · rename_i heq
        exact absurd (List.cons.inj heq).1 (ne_of_isDigit hc rfl)
      · rename_i heq
        exact absurd (List.cons.inj heq).1 (ne_of_isDigit hc rfl)
      · exact if_pos hdigits

theorem readExponent?_letter_iff {c : Char} {ds : List Char} {p : ℤ} :
    (c = 'e' ∨ c = 'E') ∧ readExponent? ds = some p ↔ ∃ e : Exponent, e.text = c :: ds ∧ e.value = p := by
  rw [readExponent?_eq_some_iff]
  constructor
  · rintro ⟨hletter, sign, es, hes, hne, rfl, rfl⟩
    rcases hletter with rfl | rfl
    · exact ⟨⟨false, sign, es, hes, hne⟩, rfl, rfl⟩
    · exact ⟨⟨true, sign, es, hes, hne⟩, rfl, rfl⟩
  · rintro ⟨e, htext, rfl⟩
    obtain ⟨hletter, hds⟩ := List.cons.inj htext
    refine ⟨?_, e.sign, e.digits, e.isDigit_of_mem, e.ne_nil, hds, rfl⟩
    rw [← hletter, Exponent.letter]
    cases e.capital <;> simp

/-! ### Numbers -/

/-- A number without sign as it is written: digits before the point, then no point or one with digits after
it, at least one digit in all, and no exponent or one. -/
@[ext] structure Numeral where
  whole : List Char
  fraction : Option (List Char)
  exponent : Option Exponent
  isDigit_of_mem : ∀ c ∈ whole ++ fraction.getD [], isDigit c = true
  ne_nil : whole ++ fraction.getD [] ≠ []

/-- How a fraction is written, if there is a point. -/
def fractionText : Option (List Char) → List Char
  | none => []
  | some ds => '.' :: ds

/-- How an exponent is written, if there is one. -/
def exponentText : Option Exponent → List Char
  | none => []
  | some e => e.text

namespace Numeral

/-- How a number is written. -/
def text (n : Numeral) : List Char := n.whole ++ (fractionText n.fraction ++ exponentText n.exponent)

/-- The exact value of a number. -/
def literal (n : Numeral) : Literal :=
  ⟨false, numeral (n.whole ++ n.fraction.getD []),
    -((n.fraction.getD []).length : ℤ) + (n.exponent.map Exponent.value).getD 0⟩

end Numeral

section

variable {fraction : Option (List Char)} (exponent : Option Exponent)

theorem exponentText_head : ∀ c ∈ (exponentText exponent).head?, isDigit c = false ∧ c ≠ '.' := by
  intro c hc
  cases exponent with
  | none => cases hc
  | some e =>
    obtain rfl : e.letter = c := Option.some.inj hc
    unfold Exponent.letter
    cases e.capital <;> decide

theorem noDigit_exponentText : NoDigit (exponentText exponent) :=
  fun c hc => (exponentText_head exponent c hc).1

theorem noDigit_fractionText (fraction : Option (List Char)) :
    NoDigit (fractionText fraction ++ exponentText exponent) := by
  cases fraction with
  | none => exact noDigit_exponentText exponent
  | some ds => exact noDigit_cons rfl

theorem readFraction_fractionText (h : ∀ c ∈ fraction.getD [], isDigit c = true) :
    readFraction (fractionText fraction ++ exponentText exponent) =
      (fraction.getD [], exponentText exponent) := by
  have hexponent := noDigit_exponentText exponent
  cases fraction with
  | none =>
    show readFraction (exponentText exponent) = ([], exponentText exponent)
    have hhead := exponentText_head exponent
    unfold readFraction
    split
    · rename_i heq
      rw [heq] at hhead
      exact absurd rfl (hhead '.' rfl).2
    · rfl
  | some ds => exact Prod.ext (takeWhile_digits h hexponent) (dropWhile_digits h hexponent)

theorem exists_fraction (cs : List Char) : ∃ fraction : Option (List Char),
    readFraction cs = (fraction.getD [], (readFraction cs).2) ∧
      fractionText fraction ++ (readFraction cs).2 = cs ∧ ∀ c ∈ fraction.getD [], isDigit c = true := by
  unfold readFraction
  split
  · rename_i rest
    refine ⟨some (rest.takeWhile isDigit), rfl, ?_, fun c hc => List.mem_takeWhile_imp hc⟩
    exact congrArg ('.' :: ·) List.takeWhile_append_dropWhile
  · exact ⟨none, rfl, rfl, by simp⟩

end

/-- **A text is read** as a literal just when it is a number as one writes it, and as what is written. -/
theorem readUnsigned?_eq_some_iff {cs : List Char} {l : Literal} :
    readUnsigned? cs = some l ↔ ∃ n : Numeral, n.text = cs ∧ n.literal = l := by
  constructor
  · intro h
    obtain ⟨fraction, hread, hrest, hfraction⟩ := exists_fraction (cs.dropWhile isDigit)
    generalize hrest' : (readFraction (cs.dropWhile isDigit)).2 = rest at hread hrest
    have hwhole : ∀ c ∈ cs.takeWhile isDigit, isDigit c = true := fun c hc => List.mem_takeWhile_imp hc
    have hdigits := List.forall_mem_append.mpr ⟨hwhole, hfraction⟩
    have hcs : cs.takeWhile isDigit ++ (fractionText fraction ++ rest) = cs := by
      rw [hrest]
      exact List.takeWhile_append_dropWhile
    unfold readUnsigned? at h
    rw [hread] at h
    by_cases hne : cs.takeWhile isDigit ++ fraction.getD [] = []
    · simp [hne] at h
    · simp only [if_neg hne] at h
      cases rest with
      | nil =>
        refine ⟨⟨_, fraction, none, hdigits, hne⟩, hcs, ?_⟩
        simpa [Numeral.literal] using h
      | cons c ds =>
        obtain ⟨hletter, h⟩ := Option.ite_none_right_eq_some.mp h
        obtain ⟨p, hp, hl⟩ := Option.map_eq_some_iff.mp h
        obtain ⟨e, he, rfl⟩ := readExponent?_letter_iff.mp ⟨hletter, hp⟩
        rw [← he] at hcs
        exact ⟨⟨_, fraction, some e, hdigits, hne⟩, hcs, hl⟩
  · rintro ⟨n, rfl, rfl⟩
    obtain ⟨hwhole, hfraction⟩ := List.forall_mem_append.mp n.isDigit_of_mem
    have hrest := noDigit_fractionText n.exponent n.fraction
    unfold readUnsigned? Numeral.text
    rw [takeWhile_digits hwhole hrest, dropWhile_digits hwhole hrest, readFraction_fractionText _ hfraction]
    simp only [if_neg n.ne_nil]
    cases hexponent : n.exponent with
    | none => simp [exponentText, Numeral.literal, hexponent]
    | some e =>
      obtain ⟨hletter, hread⟩ := readExponent?_letter_iff.mpr ⟨e, rfl, rfl⟩
      simp [exponentText, Exponent.text, hletter, hread, Numeral.literal, hexponent]

/-! ### One way only -/

theorem PowerSign.takeWhile_text (sign : PowerSign) {ds : List Char} (h : ∀ c ∈ ds, isDigit c = true) :
    (sign.text ++ ds).takeWhile (fun c => !isDigit c) = sign.text := by
  have hds : ds.takeWhile (fun c => !isDigit c) = [] := by
    cases ds with
    | nil => rfl
    | cons c ds => exact List.takeWhile_cons_of_neg (by simp [h c])
  cases sign
  · exact hds
  · exact congrArg ('+' :: ·) hds
  · exact congrArg ('-' :: ·) hds

theorem PowerSign.text_append_injective {sign sign' : PowerSign} {ds ds' : List Char}
    (h : ∀ c ∈ ds, isDigit c = true) (h' : ∀ c ∈ ds', isDigit c = true)
    (heq : sign.text ++ ds = sign'.text ++ ds') : sign = sign' ∧ ds = ds' := by
  have htext := sign.takeWhile_text h
  rw [heq, sign'.takeWhile_text h'] at htext
  have hsign : sign = sign' := by
    cases sign <;> cases sign' <;> first | rfl | cases htext
  subst hsign
  exact ⟨rfl, List.append_cancel_left heq⟩

theorem Exponent.text_injective : Function.Injective Exponent.text := by
  intro e e' h
  obtain ⟨hletter, htext⟩ := List.cons.inj h
  obtain ⟨hsign, hdigits⟩ := PowerSign.text_append_injective e.isDigit_of_mem e'.isDigit_of_mem htext
  have hcapital : e.capital = e'.capital := by
    unfold letter at hletter
    cases hc : e.capital <;> cases hc' : e'.capital <;> simp_all
  exact Exponent.ext hcapital hsign hdigits

theorem fractionText_injective : Function.Injective fractionText := by
  intro x x' h
  cases x <;> cases x'
  · rfl
  · cases h
  · cases h
  · exact congrArg some (List.cons.inj h).2

theorem exponentText_injective : Function.Injective exponentText := by
  intro x x' h
  cases x <;> cases x'
  · rfl
  · cases h
  · cases h
  · exact congrArg some (Exponent.text_injective h)

/-- **A text is a number in one way only.** -/
theorem Numeral.text_injective : Function.Injective Numeral.text := by
  intro n n' h
  obtain ⟨hwhole, hfraction⟩ := List.forall_mem_append.mp n.isDigit_of_mem
  obtain ⟨hwhole', hfraction'⟩ := List.forall_mem_append.mp n'.isDigit_of_mem
  obtain ⟨heq, hrest⟩ := digits_unique hwhole hwhole' (noDigit_fractionText _ _) (noDigit_fractionText _ _) h
  have hread := readFraction_fractionText n.exponent hfraction
  rw [hrest, readFraction_fractionText _ hfraction'] at hread
  have hexponent := (Prod.mk.inj hread).2.symm
  rw [hexponent] at hrest
  exact Numeral.ext heq (fractionText_injective (List.append_cancel_right hrest))
    (exponentText_injective hexponent)

/-! ### Ends -/

theorem exists_getLast?_of_digits {ds : List Char} (hne : ds ≠ []) (h : ∀ c ∈ ds, isDigit c = true)
    (before : List Char) : ∃ c, (before ++ ds).getLast? = some c ∧ isDigit c = true :=
  ⟨ds.getLast hne, by rw [List.getLast?_append, List.getLast?_eq_some_getLast hne, Option.some_or],
    h _ (List.getLast_mem hne)⟩

theorem Numeral.getLast?_text (n : Numeral) :
    ∃ c, n.text.getLast? = some c ∧ (isDigit c = true ∨ c = '.') := by
  obtain ⟨hwhole, hfraction⟩ := List.forall_mem_append.mp n.isDigit_of_mem
  have hne := n.ne_nil
  unfold text
  cases hexponent : n.exponent with
  | some e =>
    obtain ⟨c, hc, hdigit⟩ := exists_getLast?_of_digits e.ne_nil e.isDigit_of_mem
      (n.whole ++ (fractionText n.fraction ++ (e.letter :: e.sign.text)))
    exact ⟨c, by simpa [exponentText, Exponent.text] using hc, .inl hdigit⟩
  | none =>
    cases hpoint : n.fraction with
    | none =>
      rw [hpoint] at hne
      obtain ⟨c, hc, hdigit⟩ := exists_getLast?_of_digits (by simpa using hne) hwhole []
      exact ⟨c, by simpa [exponentText, fractionText] using hc, .inl hdigit⟩
    | some ds =>
      rw [hpoint] at hfraction
      by_cases hds : ds = []
      · exact ⟨'.', by simp [exponentText, fractionText, hds], .inr rfl⟩
      · obtain ⟨c, hc, hdigit⟩ := exists_getLast?_of_digits hds hfraction (n.whole ++ ['.'])
        exact ⟨c, by simpa [exponentText, fractionText] using hc, .inl hdigit⟩

theorem Numeral.head?_text (n : Numeral) : ∃ c, n.text.head? = some c ∧ (isDigit c = true ∨ c = '.') := by
  obtain ⟨hwhole, -⟩ := List.forall_mem_append.mp n.isDigit_of_mem
  have hne := n.ne_nil
  unfold text
  cases hcs : n.whole with
  | cons c cs => exact ⟨c, rfl, .inl (hwhole c (by simp [hcs]))⟩
  | nil =>
    cases hpoint : n.fraction with
    | none => simp [hcs, hpoint] at hne
    | some ds => exact ⟨'.', rfl, .inr rfl⟩

end RaftMysql.Decimal
