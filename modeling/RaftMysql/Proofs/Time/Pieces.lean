import Mathlib.Algebra.Order.Ring.Nat
import RaftMysql.Time.Span
import RaftMysql.Proofs.Decimal.Digits
import RaftMysql.Proofs.Text.Blank

/-!
# Lengths of time are read as they were written

A length of time is written in pieces, each a number with a unit (`Duration.pieces`), and what the pieces
say adds up to it (`Duration.sum_pieces`). A reader scans a piece as its number and its unit and adds it to
what came before (`Duration.readFrom?_pieces`); no sum on the way is beyond the whole, so nothing overflows
that did not overflow before. So every length of time with seconds of 64 bits is read as it was written
(`Duration.read?_write`).
-/

namespace RaftMysql.Duration

/-- A number of a unit, with the length of the unit in nanoseconds. -/
structure Piece where
  amount : ℕ
  word : String
  nanos : ℕ

namespace Piece

/-- How a piece is written. -/
def text (p : Piece) : String := toString p.amount ++ p.word

/-- The length of time that a piece says. -/
def length (p : Piece) : ℕ := p.amount * p.nanos

/-- A reader knows the unit and can count so many of it. -/
structure Known (p : Piece) : Prop where
  ne_nil : p.word.toList ≠ []
  letters : ∀ c ∈ p.word.toList, isUnitLetter c = true
  scale : ∃ long, scale? p.word = some ⟨p.nanos, long⟩
  pos : 0 < p.nanos
  /-- Units of a second or more are whole seconds, and of shorter ones there is less than a second. -/
  counted : p.nanos % 1000000000 = 0 ∨ p.nanos < 1000000000 ∧ p.length < 1000000000

end Piece

/-! ### Adding a piece -/

theorem word?_of_lt {n : ℕ} (h : n < 2 ^ 64) : word? n = some n := if_pos h

theorem addCount?_seconds {total : Duration} {count : ℕ} (h : (total + 1000000000 * count).seconds < 2 ^ 64) :
    addCount? total 1000000000 count = some (total + 1000000000 * count) := by
  have hcount : count < 2 ^ 64 := by
    unfold seconds at h
    omega
  have hbase : ¬1000000000 = 1 := by decide
  simp only [addCount?, word?_of_lt hcount, word?_of_lt h, if_neg hbase, Option.bind_eq_bind,
    Option.bind_some, pure]

theorem addCount?_nanos {total : Duration} {count : ℕ} (hcount : count < 1000000000)
    (h : (total + count).seconds < 2 ^ 64) : addCount? total 1 count = some (total + count) := by
  have hword : count < 2 ^ 64 := by omega
  have hsub : total.subsecond + count < 2 ^ 64 := by
    have hlt : total.subsecond < 1000000000 := Nat.mod_lt _ (by decide)
    omega
  simp only [addCount?, word?_of_lt hword, word?_of_lt hsub, word?_of_lt h, Nat.one_mul, if_pos,
    Option.bind_eq_bind, Option.bind_some, pure]

/-- **A piece adds** what it says. -/
theorem add?_of_known {p : Piece} {total : Duration} (hp : p.Known)
    (h : (total + p.length).seconds < 2 ^ 64) :
    add? total p.word p.amount none = some (total + p.length) := by
  obtain ⟨long, hscale⟩ := hp.scale
  unfold Piece.length at *
  rcases Nat.lt_or_ge p.nanos 1000000000 with hshort | hlong
  · have hlength : p.amount * p.nanos < 1000000000 := by
      rcases hp.counted with hmod | hcounted
      · have hpos := hp.pos
        omega
      · exact hcounted.2
    have hcoarse : ¬1000000000 ≤ p.nanos := Nat.not_le.mpr hshort
    have hadd := addCount?_nanos hlength h
    simp only [add?, hscale, if_neg hcoarse, hadd, Option.bind_eq_bind, Option.bind_some, pure]
  · have hmod : p.nanos % 1000000000 = 0 :=
      hp.counted.resolve_right fun hcounted => absurd hcounted.1 (Nat.not_lt.mpr hlong)
    obtain ⟨size, hsize⟩ := Nat.dvd_of_mod_eq_zero hmod
    have hwhole : p.amount * p.nanos = 1000000000 * (p.amount * size) := by
      rw [hsize, Nat.mul_left_comm]
    have hdiv : p.nanos / 1000000000 = size := by omega
    rw [hwhole] at h ⊢
    have hadd := addCount?_seconds h
    simp only [add?, hscale, if_pos hlong, hdiv, hadd, Option.bind_eq_bind, Option.bind_some, pure]

/-! ### Scanning a piece -/

section

variable (total : Duration) (rest : List Char)

theorem le_foldl_digits (ds : List Char) (k : ℕ) :
    k ≤ ds.foldl (fun n c => n * 10 + (c.toNat - 48)) k := by
  induction ds generalizing k with
  | nil => exact Nat.le_refl k
  | cons d ds ih =>
    have hrest := ih (k * 10 + (d.toNat - 48))
    rw [List.foldl_cons]
    omega

theorem readFrom?_digits {ds : List Char} (hdigits : ∀ d ∈ ds, Decimal.isDigit d = true) {k : ℕ}
    (hfits : ds.foldl (fun n c => n * 10 + (c.toNat - 48)) k < 2 ^ 64) :
    readFrom? total (.whole k) (ds ++ rest) =
      readFrom? total (.whole (ds.foldl (fun n c => n * 10 + (c.toNat - 48)) k)) rest := by
  induction ds generalizing k with
  | nil => rfl
  | cons d ds ih =>
    obtain ⟨hd, hds⟩ := List.forall_mem_cons.mp hdigits
    rw [List.foldl_cons] at hfits
    have hnext : k * 10 + digitValue d < 2 ^ 64 := Nat.lt_of_le_of_lt (le_foldl_digits ds _) hfits
    rw [List.cons_append, readFrom?, advance?, if_pos hd, word?_of_lt hnext, Option.map_some]
    exact ih hds hfits

/-- **A number** is read before anything that is no digit. -/
theorem readFrom?_number {n : ℕ} (hn : n < 2 ^ 64) :
    readFrom? total .start (Nat.toDigits 10 n ++ rest) = readFrom? total (.whole n) rest := by
  have hdigits := Decimal.isDigit_toDigits n
  have hvalue := Decimal.numeral_toDigits n
  obtain ⟨c, cs, hcs⟩ := List.exists_cons_of_ne_nil (Nat.toDigits_ne_nil (b := 10) (n := n))
  rw [hcs] at hdigits hvalue ⊢
  obtain ⟨hc, hdigits⟩ := List.forall_mem_cons.mp hdigits
  have hfold : cs.foldl (fun n c => n * 10 + (c.toNat - 48)) (digitValue c) = n := by
    rw [Decimal.numeral, List.foldl_cons, Nat.zero_mul, Nat.zero_add] at hvalue
    exact hvalue
  have hread := readFrom?_digits total rest hdigits (k := digitValue c) (by rwa [hfold])
  rw [List.cons_append, readFrom?, advance?, if_pos hc]
  rw [hfold] at hread
  exact hread

theorem not_digit_or_blank_of_isUnitLetter {c : Char} (h : isUnitLetter c = true) :
    Decimal.isDigit c = false ∧ Text.isBlank c = false := by
  have hcode : 97 ≤ c.toNat ∧ c.toNat ≤ 122 ∨ 65 ≤ c.toNat ∧ c.toNat ≤ 90 ∨ c.toNat = 181 := by
    unfold isUnitLetter at h
    simp only [Bool.or_eq_true, Bool.and_eq_true, decide_eq_true_eq, beq_iff_eq, or_assoc] at h
    rcases h with h | h | rfl
    · exact .inl h
    · exact .inr (.inl h)
    · exact .inr (.inr rfl)
  constructor
  · rw [Bool.eq_false_iff]
    intro hdigit
    obtain ⟨hlow, hhigh⟩ := Decimal.isDigit_iff.mp hdigit
    omega
  · exact Text.isBlank_eq_false (by omega) (by omega) (by omega) (by omega)

theorem readFrom?_letters {n : ℕ} {cs : List Char} (h : ∀ c ∈ cs, isUnitLetter c = true)
    (read : List Char) : readFrom? total (.inUnit n none read) (cs ++ rest) =
      readFrom? total (.inUnit n none (cs.reverse ++ read)) rest := by
  induction cs generalizing read with
  | nil => rfl
  | cons c cs ih =>
    obtain ⟨hc, hcs⟩ := List.forall_mem_cons.mp h
    rw [List.cons_append, readFrom?, advance?, if_pos hc]
    simpa using ih hcs (c :: read)

theorem readFrom?_word {n : ℕ} {cs : List Char} (hne : cs ≠ [])
    (h : ∀ c ∈ cs, isUnitLetter c = true) :
    readFrom? total (.whole n) (cs ++ rest) = readFrom? total (.inUnit n none cs.reverse) rest := by
  obtain ⟨c, cs, rfl⟩ := List.exists_cons_of_ne_nil hne
  obtain ⟨hc, hcs⟩ := List.forall_mem_cons.mp h
  obtain ⟨hdigit, hblank⟩ := not_digit_or_blank_of_isUnitLetter hc
  rw [List.cons_append, readFrom?, advance?, hdigit, hblank, hc]
  simpa using readFrom?_letters total rest hcs [c]

/-- **A piece** is scanned as its number and its unit. -/
theorem readFrom?_text {p : Piece} (hp : p.Known) (hamount : p.amount < 2 ^ 64) :
    readFrom? total .start (p.text.toList ++ rest) =
      readFrom? total (.inUnit p.amount none p.word.toList.reverse) rest := by
  have htext : p.text.toList = Nat.toDigits 10 p.amount ++ p.word.toList := by
    rw [Piece.text, String.toList_append, Nat.toString_eq_ofList_toDigits, String.toList_ofList]
  rw [htext, List.append_assoc, readFrom?_number _ _ hamount, readFrom?_word _ _ hp.ne_nil hp.letters]

end

theorem Piece.amount_lt {p : Piece} (hp : p.Known) (h : seconds p.length < 2 ^ 64) :
    p.amount < 2 ^ 64 := by
  have hpos := hp.pos
  rcases hp.counted with hmod | ⟨-, hcounted⟩
  · obtain ⟨size, hsize⟩ := Nat.dvd_of_mod_eq_zero hmod
    have hsize' : 0 < size := by omega
    have hwhole : p.length = 1000000000 * (p.amount * size) := by
      rw [Piece.length, hsize, Nat.mul_left_comm]
    have hseconds : seconds p.length = p.amount * size := by
      rw [hwhole, seconds]
      omega
    rw [hseconds] at h
    exact Nat.lt_of_le_of_lt (Nat.le_mul_of_pos_right _ hsize') h
  · have hle : p.amount ≤ p.length := Nat.le_mul_of_pos_right _ hpos
    omega

theorem seconds_mono {d d' : Duration} (h : d ≤ d') : d.seconds ≤ d'.seconds := Nat.div_le_div_right h

/-- **Pieces with blanks between them** are read as what they add up to. -/
theorem readFrom?_pieces (total : Duration) {ps : List Piece} (hps : ∀ p ∈ ps, p.Known)
    (h : (total + (ps.map Piece.length).sum).seconds < 2 ^ 64) :
    readFrom? total .start ([' '].intercalate (ps.map fun p => p.text.toList)) =
      some (total + (ps.map Piece.length).sum) := by
  induction ps generalizing total with
  | nil => rfl
  | cons p ps ih =>
    obtain ⟨hp, hps⟩ := List.forall_mem_cons.mp hps
    rw [List.map_cons (f := Piece.length), List.sum_cons, ← Nat.add_assoc] at h ⊢
    have hfirst : (total + p.length).seconds < 2 ^ 64 :=
      Nat.lt_of_le_of_lt (seconds_mono (Nat.le_add_right _ _)) h
    have hamount : p.amount < 2 ^ 64 :=
      Piece.amount_lt hp (Nat.lt_of_le_of_lt (seconds_mono (Nat.le_add_left _ _)) hfirst)
    have hadd := add?_of_known hp hfirst
    cases ps with
    | nil =>
      have hread := readFrom?_text total [] hp hamount
      simpa [readFrom?, hadd] using hread
    | cons q qs =>
      have hread := readFrom?_text total
        (' ' :: [' '].intercalate (q.text.toList :: qs.map fun p => p.text.toList)) hp hamount
      have hrest := ih _ hps h
      rw [List.map_cons] at hrest
      rw [List.map_cons, List.map_cons, List.intercalate_cons_cons, List.append_assoc,
        List.singleton_append, hread, readFrom?, advance?]
      simpa [hadd, show isUnitLetter ' ' = false from rfl, show Decimal.isDigit ' ' = false from rfl,
        show Text.isBlank ' ' = true from rfl] using hrest

/-! ### The pieces of a length of time -/

/-- A number of a unit in a row of pieces, left out when there is none of it. -/
def piecesOf (unit : String) (plural : Bool) (nanos n : ℕ) : List Piece :=
  if n = 0 then [] else [⟨n, unit ++ if plural ∧ 1 < n then "s" else "", nanos⟩]

theorem map_text_piecesOf (unit : String) (plural : Bool) (nanos n : ℕ) :
    (piecesOf unit plural nanos n).map Piece.text = writePart unit plural n := by
  unfold piecesOf writePart
  split
  · rfl
  · rw [List.map_singleton, Piece.text, String.append_assoc]

theorem sum_piecesOf (unit : String) (plural : Bool) (nanos n : ℕ) :
    ((piecesOf unit plural nanos n).map Piece.length).sum = n * nanos := by
  unfold piecesOf
  split <;> rename_i hn
  · rw [hn, Nat.zero_mul]
    rfl
  · simp [Piece.length]

/-- The pieces that a length of time is written in. -/
def pieces (d : Duration) : List Piece :=
  let s := d.seconds
  let n := d.subsecond
  let inYear := s % 31557600
  let inMonth := inYear % 2630016
  let inDay := inMonth % 86400
  if d = 0 then [⟨0, "s", 1000000000⟩]
  else
    piecesOf "year" true (31557600 * 1000000000) (s / 31557600)
      ++ piecesOf "month" true (2630016 * 1000000000) (inYear / 2630016)
      ++ piecesOf "day" true (86400 * 1000000000) (inMonth / 86400)
      ++ piecesOf "h" false (3600 * 1000000000) (inDay / 3600)
      ++ piecesOf "m" false (60 * 1000000000) (inDay % 3600 / 60)
      ++ piecesOf "s" false 1000000000 (inDay % 60)
      ++ piecesOf "ms" false 1000000 (n / 1000000) ++ piecesOf "us" false 1000 (n / 1000 % 1000)
      ++ piecesOf "ns" false 1 (n % 1000)

theorem write_eq_pieces (d : Duration) : d.write = " ".intercalate (d.pieces.map Piece.text) := by
  unfold write pieces
  by_cases hd : d = 0
  · subst hd
    rfl
  · simp only [if_neg hd, List.map_append, map_text_piecesOf]

/-- **The pieces add up** to the length of time. -/
theorem sum_pieces (d : Duration) : (d.pieces.map Piece.length).sum = d := by
  unfold pieces
  by_cases hd : d = 0
  · subst hd
    rfl
  · simp only [if_neg hd, List.map_append, List.sum_append, sum_piecesOf]
    unfold seconds subsecond
    omega

/-- A piece of one or more is known if its unit is, in the singular and, where it has one, in the plural. -/
theorem known_of_mem_piecesOf {unit : String} {plural : Bool} {nanos n : ℕ} (long : Bool)
    (hunit : unit.toList ≠ [] ∧ unit.toList.all isUnitLetter = true ∧ scale? unit = some ⟨nanos, long⟩ ∧
      0 < nanos)
    (hplural : plural = true → scale? (unit ++ "s") = some ⟨nanos, long⟩)
    (hcounted : nanos % 1000000000 = 0 ∨ nanos < 1000000000 ∧ n * nanos < 1000000000) :
    ∀ p ∈ piecesOf unit plural nanos n, p.Known := by
  obtain ⟨hne, hletters, hscale, hpos⟩ := hunit
  rw [List.all_eq_true] at hletters
  unfold piecesOf
  split
  · simp
  · refine List.forall_mem_singleton.mpr ?_
    by_cases hmany : plural = true ∧ 1 < n
    · rw [if_pos hmany]
      refine ⟨by simp, ?_, ⟨long, hplural hmany.1⟩, hpos, hcounted⟩
      rw [String.toList_append]
      exact List.forall_mem_append.mpr ⟨hletters, List.all_eq_true.mp (by decide)⟩
    · rw [if_neg hmany, String.append_empty]
      exact ⟨hne, hletters, ⟨long, hscale⟩, hpos, hcounted⟩

theorem known_of_mem_pieces (d : Duration) : ∀ p ∈ d.pieces, p.Known := by
  unfold pieces
  by_cases hd : d = 0
  · subst hd
    exact List.forall_mem_singleton.mpr
      ⟨by decide, List.all_eq_true.mp (by decide), ⟨false, by decide⟩, by decide, .inl (by decide)⟩
  · have hsub : d.subsecond < 1000000000 := Nat.mod_lt _ (by decide)
    simp only [if_neg hd, List.forall_mem_append, and_assoc]
    refine ⟨?_, ?_, ?_, ?_, ?_, ?_, ?_, ?_, ?_⟩
    · exact known_of_mem_piecesOf true (by decide) (fun _ => by decide) (.inl (by decide))
    · exact known_of_mem_piecesOf true (by decide) (fun _ => by decide) (.inl (by decide))
    · exact known_of_mem_piecesOf true (by decide) (fun _ => by decide) (.inl (by decide))
    · exact known_of_mem_piecesOf true (by decide) (by simp) (.inl (by decide))
    · exact known_of_mem_piecesOf false (by decide) (by simp) (.inl (by decide))
    · exact known_of_mem_piecesOf false (by decide) (by simp) (.inl (by decide))
    · exact known_of_mem_piecesOf false (by decide) (by simp) (.inr ⟨by decide, by omega⟩)
    · exact known_of_mem_piecesOf false (by decide) (by simp) (.inr ⟨by decide, by omega⟩)
    · exact known_of_mem_piecesOf false (by decide) (by simp) (.inr ⟨by decide, by omega⟩)

theorem pieces_ne_nil (d : Duration) : d.pieces ≠ [] := by
  intro h
  have hsum := d.sum_pieces
  rw [h] at hsum
  have hzero : d = 0 := hsum.symm
  subst hzero
  exact absurd h (by decide)

/-- **A length of time is read as it was written**, whatever it is. -/
theorem read?_write {d : Duration} (h : d.seconds < 2 ^ 64) : read? d.write = some d := by
  obtain ⟨p, ps, hps⟩ := List.exists_cons_of_ne_nil d.pieces_ne_nil
  have hknown := d.known_of_mem_pieces
  have hread := readFrom?_pieces 0 hknown (by rwa [Nat.zero_add, sum_pieces])
  rw [Nat.zero_add, sum_pieces] at hread
  have htext : d.write.toList = [' '].intercalate (d.pieces.map fun p => p.text.toList) := by
    rw [write_eq_pieces, String.toList_intercalate, List.map_map]
    rfl
  have hletter : ∃ c ∈ d.write.toList, isUnitLetter c = true := by
    have hp := hknown p (by rw [hps]; exact List.mem_cons_self)
    obtain ⟨c, cs, hword⟩ := List.exists_cons_of_ne_nil hp.ne_nil
    refine ⟨c, ?_, hp.letters c (by rw [hword]; exact List.mem_cons_self)⟩
    have hmem : c ∈ p.text.toList := by simp [Piece.text, hword]
    rw [htext, hps, List.map_cons]
    cases ps with
    | nil => simpa using hmem
    | cons q qs =>
      rw [List.map_cons, List.intercalate_cons_cons]
      simp [hmem]
  obtain ⟨c, hc, hunit⟩ := hletter
  have hzero : d.write ≠ "0" := by
    intro heq
    rw [heq] at hc
    rw [List.mem_singleton.mp hc] at hunit
    cases hunit
  have hblank : ¬(d.write.toList.all Text.isBlank = true) := by
    intro hall
    have hc' := List.all_eq_true.mp hall c hc
    rw [(not_digit_or_blank_of_isUnitLetter hunit).2] at hc'
    cases hc'
  rw [read?, if_neg hzero, if_neg hblank, htext]
  exact hread

end RaftMysql.Duration
