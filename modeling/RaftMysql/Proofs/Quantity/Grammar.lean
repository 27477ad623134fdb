import RaftMysql.Quantity
import RaftMysql.Proofs.Decimal.Nearest
import RaftMysql.Proofs.Decimal.Numerals
import RaftMysql.Proofs.Text.Blank

/-!
# What a quantity is

A quantity is written as an optional plus sign, a number and at most one suffix (`Form`). Numbers end in
digits or in their point and suffixes in letters, and no suffix ends another, so a text is a quantity in one
way only (`Form.text_injective`). The reader looks for the suffixes one after the other, and finds just the
one that the text ends in (`readChars?_suffix`); an exponent ends in a digit and is never taken for one. So
the texts that are read are the quantities whose number has a finite double (`readChars?_eq_some_iff`).
-/

namespace RaftMysql.Quantity

open Decimal (Numeral isDigit)

/-! ### Suffixes -/

/-- The suffixes of quantities. -/
inductive Suffix where
  | Ki | Mi | Gi | Ti | Pi | Ei | m | k | M | G | T | P | E
  deriving DecidableEq

namespace Suffix

/-- How a suffix is written. -/
def text : Suffix → List Char
  | Ki => ['K', 'i']
  | Mi => ['M', 'i']
  | Gi => ['G', 'i']
  | Ti => ['T', 'i']
  | Pi => ['P', 'i']
  | Ei => ['E', 'i']
  | m => ['m']
  | k => ['k']
  | M => ['M']
  | G => ['G']
  | T => ['T']
  | P => ['P']
  | E => ['E']

/-- The power of 1024 or of 1000 that a suffix stands for. -/
def power : Suffix → ℤ
  | m => -1
  | Ki | k => 1
  | Mi | M => 2
  | Gi | G => 3
  | Ti | T => 4
  | Pi | P => 5
  | Ei | E => 6

def binary : List Suffix := [Ki, Mi, Gi, Ti, Pi, Ei]

def decimal : List Suffix := [m, k, M, G, T, P, E]

/-- What a suffix stands for. -/
def factor (s : Suffix) : Float :=
  if s ∈ binary then Float.ofNat (Nat.pow 1024 s.power.toNat) else thousandTo s.power

theorem mem_binary_or_decimal (s : Suffix) : s ∈ decimal ↔ s ∉ binary := by
  cases s <;> decide

theorem ends (s t : Suffix) : (s.text.getLast? = t.text.getLast? → s.text.length = t.text.length) ∧
    (s.text = t.text → s = t) := by
  cases s <;> cases t <;> decide

theorem letters (s : Suffix) : ∀ c ∈ s.text, isDigit c = false ∧ c ≠ '.' ∧ Text.isBlank c = false := by
  have hall : s.text.all (fun c => !isDigit c && c != '.' && !Text.isBlank c) = true := by
    cases s <;> decide
  simpa [and_assoc] using hall

theorem ne_nil (s : Suffix) : s.text ≠ [] := by
  cases s <;> decide

end Suffix

theorem binarySuffixes_eq : binarySuffixes = Suffix.binary.map fun s => (s.text, s.power.toNat) := rfl

theorem decimalSuffixes_eq : decimalSuffixes = Suffix.decimal.map fun s => (s.text, s.power) := rfl

theorem before?_eq_some_iff {suffix cs rest : List Char} :
    before? suffix cs = some rest ↔ rest ++ suffix = cs := by
  unfold before?
  constructor
  · intro h
    obtain ⟨⟨-, hdrop⟩, hrest⟩ := Option.ite_none_right_eq_some.mp h
    obtain rfl := Option.some.inj hrest
    exact (congrArg (cs.take _ ++ ·) hdrop.symm).trans (List.take_append_drop _ _)
  · rintro rfl
    simp

theorem append_suffix_inj {s t : Suffix} {cs ds : List Char} (h : cs ++ s.text = ds ++ t.text) :
    cs = ds ∧ s = t := by
  have hlast := congrArg List.getLast? h
  rw [List.getLast?_append, List.getLast?_append, List.getLast?_eq_some_getLast s.ne_nil,
    List.getLast?_eq_some_getLast t.ne_nil, Option.some_or, Option.some_or,
    ← List.getLast?_eq_some_getLast, ← List.getLast?_eq_some_getLast] at hlast
  obtain ⟨hcs, htext⟩ := List.append_inj' h ((s.ends t).1 hlast)
  exact ⟨hcs, (s.ends t).2 htext⟩

theorem before?_text (s t : Suffix) (cs : List Char) :
    before? s.text (cs ++ t.text) = if s = t then some cs else none := by
  by_cases h : s = t
  · rw [if_pos h, before?_eq_some_iff, h]
  · rw [if_neg h]
    exact Option.eq_none_iff_forall_ne_some.mpr fun rest hrest =>
      h (append_suffix_inj (before?_eq_some_iff.mp hrest)).2

/-! ### Numbers -/

/-- An optional plus sign as it is written. -/
def plusText (plus : Bool) : List Char := if plus then ['+'] else []

theorem head?_text_ne (n : Numeral) : n.text.head? ≠ some '+' := by
  obtain ⟨c, hc, hstart⟩ := n.head?_text
  rw [hc]
  rintro ⟨⟩
  rcases hstart with h | h <;> cases h

/-- The double closest to a literal, if it is finite. -/
def finite? (l : Decimal.Literal) : Option Float :=
  if l.nearest.isFinite then some l.nearest else none

theorem readNumber?_plus (cs : List Char) :
    readNumber? ('+' :: cs) = (Decimal.readUnsigned? cs).bind finite? := by
  cases h : Decimal.readUnsigned? cs <;> simp [readNumber?, finite?, h]

theorem readNumber?_of_forall_ne {cs : List Char} (h : ∀ rest, cs ≠ '+' :: rest) :
    readNumber? cs = (Decimal.readUnsigned? cs).bind finite? := by
  unfold readNumber?
  split
  · exact absurd rfl (h _)
  · cases Decimal.readUnsigned? cs <;> rfl

theorem bind_finite?_eq_some_iff {cs : List Char} {x : Float} :
    (Decimal.readUnsigned? cs).bind finite? = some x ↔
      ∃ n : Numeral, n.text = cs ∧ n.literal.nearest.isFinite = true ∧ n.literal.nearest = x := by
  rw [Option.bind_eq_some_iff]
  constructor
  · rintro ⟨l, hl, hx⟩
    obtain ⟨n, hn, rfl⟩ := Decimal.readUnsigned?_eq_some_iff.mp hl
    obtain ⟨hfinite, hx⟩ := Option.ite_none_right_eq_some.mp hx
    exact ⟨n, hn, hfinite, Option.some.inj hx⟩
  · rintro ⟨n, hn, hfinite, rfl⟩
    exact ⟨_, Decimal.readUnsigned?_eq_some_iff.mpr ⟨n, hn, rfl⟩, if_pos hfinite⟩

/-- **A number** is one as it is written, perhaps with a plus sign, whose nearest double is finite. -/
theorem readNumber?_eq_some_iff {cs : List Char} {x : Float} :
    readNumber? cs = some x ↔ ∃ (plus : Bool) (n : Numeral), plusText plus ++ n.text = cs ∧
      n.literal.nearest.isFinite = true ∧ n.literal.nearest = x := by
  by_cases h : ∃ rest, cs = '+' :: rest
  · obtain ⟨rest, rfl⟩ := h
    rw [readNumber?_plus, bind_finite?_eq_some_iff]
    refine ⟨fun ⟨n, hn, h⟩ => ⟨true, n, congrArg ('+' :: ·) hn, h⟩, ?_⟩
    rintro ⟨plus, n, hn, h⟩
    cases plus with
    | true => exact ⟨n, (List.cons.inj hn).2, h⟩
    | false => exact absurd (congrArg List.head? hn) (head?_text_ne n)
  · have hplus : ∀ rest, cs ≠ '+' :: rest := fun rest hrest => h ⟨rest, hrest⟩
    rw [readNumber?_of_forall_ne hplus, bind_finite?_eq_some_iff]
    refine ⟨fun ⟨n, hn, h⟩ => ⟨false, n, hn, h⟩, ?_⟩
    rintro ⟨plus, n, hn, h⟩
    cases plus with
    | true => exact absurd hn.symm (hplus _)
    | false => exact ⟨n, hn, h⟩

theorem append_text_ne (n : Numeral) (t : Suffix) (cs ds : List Char) : cs ++ n.text ≠ ds ++ t.text := by
  intro h
  obtain ⟨c, hc, hend⟩ := n.getLast?_text
  have hlast := congrArg List.getLast? h
  rw [List.getLast?_append, hc, List.getLast?_append, List.getLast?_eq_some_getLast t.ne_nil,
    Option.some_or, Option.some_or] at hlast
  obtain rfl := Option.some.inj hlast
  obtain ⟨hdigit, hpoint, -⟩ := t.letters _ (List.getLast_mem t.ne_nil)
  rcases hend with h | h
  · rw [hdigit] at h
    cases h
  · exact hpoint h

theorem readNumber?_suffix (t : Suffix) (cs : List Char) : readNumber? (cs ++ t.text) = none := by
  refine Option.eq_none_iff_forall_ne_some.mpr fun x hx => ?_
  obtain ⟨plus, n, htext, -⟩ := readNumber?_eq_some_iff.mp hx
  exact append_text_ne n t _ _ htext

/-! ### Numbers with a suffix -/

theorem findSome?_before? (t : Suffix) (cs : List Char) (l : List Suffix) :
    (l.map fun s => (s.text, s.power.toNat)).findSome?
        (fun s => (before? s.1 (cs ++ t.text)).map fun rest => (rest, s.2)) =
      if t ∈ l then some (cs, t.power.toNat) else none := by
  induction l with
  | nil => rfl
  | cons s l ih =>
    rw [List.map_cons, List.findSome?_cons, before?_text]
    by_cases h : s = t
    · subst h
      simp
    · simp [h, ih, Ne.symm h]

theorem readDecimal?_suffix (t : Suffix) (cs : List Char) (l : List Suffix) :
    readDecimal? (cs ++ t.text) (l.map fun s => (s.text, s.power)) =
      if t ∈ l then (readNumber? cs).map (· * thousandTo t.power) else none := by
  induction l with
  | nil => rfl
  | cons s l ih =>
    rw [List.map_cons, readDecimal?, before?_text]
    by_cases h : s = t
    · subst h
      cases hread : readNumber? cs with
      | none => simp [ih, hread]
      | some x => simp [hread]
    · simp [h, ih, Ne.symm h]

/-- **A suffix** multiplies what the number before it is read as. -/
theorem readChars?_suffix (t : Suffix) (cs : List Char) :
    readChars? (cs ++ t.text) = (readNumber? cs).map (· * t.factor) := by
  unfold readChars? Suffix.factor
  rw [binarySuffixes_eq, decimalSuffixes_eq, findSome?_before?, readDecimal?_suffix]
  by_cases h : t ∈ Suffix.binary
  · simp [h]
  · simp only [if_neg h, if_pos ((t.mem_binary_or_decimal).mpr h), readNumber?_suffix]
    cases readNumber? cs <;> rfl

theorem readChars?_of_forall_ne {cs : List Char} (h : ∀ (t : Suffix) rest, rest ++ t.text ≠ cs) :
    readChars? cs = readNumber? cs := by
  have hbefore (t : Suffix) : before? t.text cs = none :=
    Option.eq_none_iff_forall_ne_some.mpr fun rest hrest => h t rest (before?_eq_some_iff.mp hrest)
  have hdecimal (l : List Suffix) : readDecimal? cs (l.map fun s => (s.text, s.power)) = none := by
    induction l with
    | nil => rfl
    | cons s l ih => simp [readDecimal?, hbefore, ih]
  unfold readChars?
  rw [binarySuffixes_eq, decimalSuffixes_eq, hdecimal, List.findSome?_eq_none_iff.mpr]
  intro s hs
  obtain ⟨t, -, rfl⟩ := List.mem_map.mp hs
  simp [hbefore]

/-- A quantity as it is written: an optional plus sign, a number, and at most one suffix. -/
@[ext] structure Form where
  plus : Bool
  number : Numeral
  suffix : Option Suffix

/-- How a suffix is written, if there is one. -/
def suffixText : Option Suffix → List Char
  | none => []
  | some t => t.text

namespace Form

/-- How a quantity is written. -/
def text (f : Form) : List Char := plusText f.plus ++ f.number.text ++ suffixText f.suffix

/-- The double closest to the number of a quantity. -/
def nearest (f : Form) : Float := f.number.literal.nearest

/-- What a quantity comes to. -/
def size (f : Form) : Float := (f.suffix.map fun t => f.nearest * t.factor).getD f.nearest

end Form

/-- **A text is read** just when it is a quantity with a finite number, and as what that comes to. -/
theorem readChars?_eq_some_iff {cs : List Char} {x : Float} :
    readChars? cs = some x ↔ ∃ f : Form, f.text = cs ∧ f.nearest.isFinite = true ∧ f.size = x := by
  by_cases h : ∃ (t : Suffix) (rest : List Char), rest ++ t.text = cs
  · obtain ⟨t, rest, rfl⟩ := h
    rw [readChars?_suffix, Option.map_eq_some_iff]
    constructor
    · rintro ⟨y, hy, rfl⟩
      obtain ⟨plus, n, rfl, hfinite, rfl⟩ := readNumber?_eq_some_iff.mp hy
      exact ⟨⟨plus, n, some t⟩, rfl, hfinite, rfl⟩
    · rintro ⟨⟨plus, n, suffix⟩, htext, hfinite, rfl⟩
      cases suffix with
      | none => exact absurd ((List.append_nil _).symm.trans htext) (append_text_ne n t _ _)
      | some t' =>
        obtain ⟨hrest, rfl⟩ := append_suffix_inj htext
        exact ⟨_, readNumber?_eq_some_iff.mpr ⟨plus, n, hrest, hfinite, rfl⟩, rfl⟩
  · rw [readChars?_of_forall_ne fun t rest hrest => h ⟨t, rest, hrest⟩, readNumber?_eq_some_iff]
    constructor
    · rintro ⟨plus, n, rfl, hfinite, rfl⟩
      exact ⟨⟨plus, n, none⟩, List.append_nil _, hfinite, rfl⟩
    · rintro ⟨⟨plus, n, suffix⟩, htext, hfinite, rfl⟩
      cases suffix with
      | none => exact ⟨plus, n, (List.append_nil _).symm.trans htext, hfinite, rfl⟩
      | some t => exact absurd ⟨t, _, htext⟩ h

/-! ### One way only -/

theorem plusText_append_injective {plus plus' : Bool} {n n' : Numeral}
    (h : plusText plus ++ n.text = plusText plus' ++ n'.text) : plus = plus' ∧ n = n' := by
  cases plus <;> cases plus'
  · exact ⟨rfl, Numeral.text_injective h⟩
  · exact absurd (congrArg List.head? h) (head?_text_ne n)
  · exact absurd (congrArg List.head? h.symm) (head?_text_ne n')
  · exact ⟨rfl, Numeral.text_injective (List.cons.inj h).2⟩

/-- **A text is a quantity in one way only.** -/
theorem Form.text_injective : Function.Injective Form.text := by
  rintro ⟨plus, n, suffix⟩ ⟨plus', n', suffix'⟩ h
  have hsplit : plusText plus ++ n.text = plusText plus' ++ n'.text ∧ suffix = suffix' := by
    cases suffix with
    | none =>
      cases suffix' with
      | none => exact ⟨List.append_cancel_right h, rfl⟩
      | some t' => exact absurd ((List.append_nil _).symm.trans h) (append_text_ne n t' _ _)
    | some t =>
      cases suffix' with
      | none => exact absurd ((List.append_nil _).symm.trans h.symm) (append_text_ne n' t _ _)
      | some t' =>
        obtain ⟨hfront, rfl⟩ := append_suffix_inj h
        exact ⟨hfront, rfl⟩
  obtain ⟨hfront, rfl⟩ := hsplit
  obtain ⟨rfl, rfl⟩ := plusText_append_injective hfront
  rfl

/-! ### Quantities in a text -/

theorem isBlank_of_isDigit_or_point {c : Char} (h : isDigit c = true ∨ c = '.') :
    Text.isBlank c = false := by
  rcases h with h | rfl
  · obtain ⟨hlow, hhigh⟩ := Decimal.isDigit_iff.mp h
    exact Text.isBlank_eq_false (by omega) (by omega) (by omega) (by omega)
  · rfl

theorem Form.head?_text (f : Form) : ∃ c, f.text.head? = some c ∧ Text.isBlank c = false := by
  obtain ⟨c, hc, hstart⟩ := f.number.head?_text
  unfold text plusText
  cases f.plus with
  | true => exact ⟨'+', rfl, rfl⟩
  | false => exact ⟨c, by simp [hc], isBlank_of_isDigit_or_point hstart⟩

theorem Form.getLast?_text (f : Form) : ∃ c, f.text.getLast? = some c ∧ Text.isBlank c = false := by
  obtain ⟨c, hc, hend⟩ := f.number.getLast?_text
  unfold text
  cases f.suffix with
  | none => exact ⟨c, by simp [suffixText, hc], isBlank_of_isDigit_or_point hend⟩
  | some t =>
    refine ⟨t.text.getLast t.ne_nil, ?_, (t.letters _ (List.getLast_mem t.ne_nil)).2.2⟩
    rw [suffixText, List.getLast?_append, List.getLast?_eq_some_getLast t.ne_nil, Option.some_or]

theorem Form.isFinite_nearest_iff (f : Form) :
    f.nearest.isFinite = true ↔ f.number.literal.magnitude < 2 ^ 1024 - 2 ^ 970 :=
  Decimal.isFinite_nearest_iff _ _

/-- **A text is read** just when it is, white space around it apart, a quantity whose number has a finite
double, and as what that quantity comes to; it is a quantity in one way only, and the double is finite just
when the number is below the largest finite double and half of its last place more. -/
theorem read?_grammar (s : String) :
    (∀ x, read? s = some x ↔
      ∃ f : Form, Text.Within f.text s.toList ∧ f.nearest.isFinite = true ∧ f.size = x) ∧
    (∀ f f' : Form, Text.Within f.text s.toList → Text.Within f'.text s.toList → f = f') ∧
    ∀ f : Form, f.nearest.isFinite = true ↔ f.number.literal.magnitude < 2 ^ 1024 - 2 ^ 970 := by
  have hwithin (f : Form) : f.text = Text.trimBlankList s.toList ↔ Text.Within f.text s.toList :=
    eq_comm.trans (Text.trimBlankList_eq_iff f.head?_text f.getLast?_text)
  refine ⟨fun x => ?_, fun f f' hf hf' => ?_, Form.isFinite_nearest_iff⟩
  · rw [read?, readChars?_eq_some_iff]
    simp only [hwithin]
  · exact Form.text_injective (((hwithin f).mpr hf).trans ((hwithin f').mpr hf').symm)

end RaftMysql.Quantity
