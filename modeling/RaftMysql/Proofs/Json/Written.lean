import Mathlib.Data.List.TakeWhile
import RaftMysql.Json.Reader
import RaftMysql.Json.Writer
import RaftMysql.Proofs.Decimal.Digits
import RaftMysql.Proofs.Object.Shapes

/-!
# What was written is read back

A value is plain (`Json.Plain`) if it holds no doubles, its numbers fit 64 bits, and it is nested no
deeper than a reader goes. Its text is scanned as the tokens of the value (`Json.scans_write`), and these
build its document (`Document.foldlM_tokens`). So a plain value is read back from its text
(`Document.read?_write`).
-/

namespace RaftMysql

namespace Json

/-! ### Plain values -/

mutual

/-- The value is nested at most so deep, and holds no number but whole ones of 64 bits. -/
def Plain : ℕ → Json → Prop
  | _, .int n => -9223372036854775808 ≤ n ∧ n ≤ 18446744073709551615
  | _, .double _ => False
  | 0, .list _ | 0, .object _ => False
  | depth + 1, .list items => PlainItems depth items
  | depth + 1, .object members => PlainMembers depth members
  | _, _ => True

def PlainItems : ℕ → List Json → Prop
  | _, [] => True
  | depth, x :: xs => Plain depth x ∧ PlainItems depth xs

def PlainMembers : ℕ → List (String × Json) → Prop
  | _, [] => True
  | depth, (_, x) :: xs => Plain depth x ∧ PlainMembers depth xs

end

theorem plainItems_iff {depth : ℕ} {xs : List Json} : PlainItems depth xs ↔ ∀ x ∈ xs, Plain depth x := by
  induction xs with
  | nil => simp [PlainItems]
  | cons x xs ih => rw [PlainItems, ih, List.forall_mem_cons]

theorem plainMembers_iff {depth : ℕ} {members : List (String × Json)} :
    PlainMembers depth members ↔ ∀ p ∈ members, Plain depth p.2 := by
  induction members with
  | nil => simp [PlainMembers]
  | cons p members ih => rw [PlainMembers, ih, List.forall_mem_cons]

theorem plain_text (depth : ℕ) (s : String) : (text s).Plain depth := by
  rw [Plain] <;> simp

theorem plain_list {depth : ℕ} {xs : List Json} (h : ∀ x ∈ xs, Plain depth x) :
    (list xs).Plain (depth + 1) := by
  rw [Plain]
  exact plainItems_iff.mpr h

theorem plain_ofMembers {depth : ℕ} {members : List (String × Option Json)}
    (h : ∀ m ∈ members, ∀ v ∈ m.2, Plain depth v) : (ofMembers members).Plain (depth + 1) := by
  rw [ofMembers, Plain]
  refine plainMembers_iff.mpr fun p hp => ?_
  obtain ⟨m, hm, hmp⟩ := List.mem_filterMap.mp (Table.mem_of_mem_ofPairs hp)
  obtain ⟨v, hv, rfl⟩ := Option.map_eq_some_iff.mp hmp
  exact h m hm v hv

/-! ### The tokens of a value -/

mutual

/-- The tokens that a value is written in. -/
def tokens : Json → List Token
  | .null => [.scalar .null]
  | .flag b => [.scalar (.flag b)]
  | .int n => [.scalar (.int n)]
  | .double bits => [.scalar (.double bits)]
  | .text s => [.text (some s)]
  | .list items => .openList :: ([.comma].intercalate (itemsTokens items) ++ [.closeList])
  | .object members => .openRecord :: ([.comma].intercalate (membersTokens members) ++ [.closeRecord])

def itemsTokens : List Json → List (List Token)
  | [] => []
  | x :: xs => tokens x :: itemsTokens xs

def membersTokens : List (String × Json) → List (List Token)
  | [] => []
  | (key, x) :: xs => (.text (some key) :: .colon :: tokens x) :: membersTokens xs

end

namespace Token

variable {found : List Token} {rest : List Char}

/-! ### Scanning texts -/

theorem hexValue?_hexDigit : ∀ n < 16, hexValue? (hexDigit n) = some n := by decide

theorem scanFrom?_hexDigits {high low : ℕ} (hhigh : high < 16) (hlow : low < 16) (read : List Nat) :
    scanFrom? (.hex read 2 0) found (hexDigit high :: hexDigit low :: rest) =
      scanFrom? (.inText ((high * 16 + low) :: read)) found rest := by
  simp [scanFrom?, advance?, hexValue?_hexDigit high hhigh, hexValue?_hexDigit low hlow]

/-- **A character of a text** is one unit of it again, however it was written. -/
theorem scanFrom?_writeChar (c : Char) (read : List Nat) :
    scanFrom? (.inText read) found (writeChar c ++ rest) =
      scanFrom? (.inText (c.toNat :: read)) found rest := by
  unfold writeChar
  split_ifs with hquote hslash h8 h9 h10 h12 h13 hcontrol
  · subst hquote
    rfl
  · subst hslash
    rfl
  · rw [h8]
    rfl
  · rw [h9]
    rfl
  · rw [h10]
    rfl
  · rw [h12]
    rfl
  · rw [h13]
    rfl
  · have hunit : c.toNat / 16 * 16 + c.toNat % 16 = c.toNat := Nat.div_add_mod' ..
    have hdigits : scanFrom? (.hex read 2 0) found
        (hexDigit (c.toNat / 16) :: hexDigit (c.toNat % 16) :: rest) = _ :=
      scanFrom?_hexDigits (by omega) (by omega) read
    rw [hunit] at hdigits
    exact hdigits
  · have hstep : advance? (.inText read) c = some (.inText (c.toNat :: read), []) := by
      rw [advance?, if_neg hquote, if_neg hslash, if_neg hcontrol]
    rw [List.singleton_append, scanFrom?, hstep]
    rfl

theorem pairUnits?_toNat (cs : List Char) : pairUnits? (cs.map Char.toNat) = some cs := by
  induction cs with
  | nil => rfl
  | cons c cs ih =>
    have hvalid : c.toNat < 0xD800 ∨ 0xDFFF < c.toNat ∧ c.toNat < 0x110000 := c.valid
    have hhigh : ¬(0xD800 ≤ c.toNat ∧ c.toNat ≤ 0xDBFF) := by omega
    have hlow : ¬(0xDC00 ≤ c.toNat ∧ c.toNat ≤ 0xDFFF) := by omega
    rw [List.map_cons, pairUnits?.eq_def]
    simp only [if_neg hhigh, if_neg hlow, ih, Option.map_some, Char.ofNat_toNat]

theorem scanFrom?_writeChars (cs : List Char) (read : List Nat) :
    scanFrom? (.inText read) found (cs.flatMap writeChar ++ '"' :: rest) =
      scanFrom? .between (.text (readText (read.reverse ++ cs.map Char.toNat)) :: found) rest := by
  induction cs generalizing read with
  | nil =>
    rw [List.map_nil, List.append_nil]
    rfl
  | cons c cs ih =>
    rw [List.flatMap_cons, List.append_assoc, scanFrom?_writeChar, ih]
    simp

theorem scanFrom?_writeText (s : String) :
    scanFrom? .between found ((writeText s).toList ++ rest) =
      scanFrom? .between (.text (some s) :: found) rest := by
  have hbegin : scanFrom? .between found ((writeText s).toList ++ rest) =
      scanFrom? (.inText []) found (s.toList.flatMap writeChar ++ '"' :: rest) := by
    simp [writeText, scanFrom?, advance?, begin?]
  rw [hbegin, scanFrom?_writeChars, readText, List.reverse_nil, List.nil_append, pairUnits?_toNat]
  simp

/-! ### Scanning numbers and words -/

/-- What can follow a number or a word. -/
def Ends (rest : List Char) : Prop := ∀ c ∈ rest.head?, isNumeric c = false ∧ isLetter c = false

theorem ends_nil : Ends [] := by simp [Ends]

theorem ends_cons {c : Char} (h : isNumeric c = false ∧ isLetter c = false) : Ends (c :: rest) := by
  simpa [Ends] using h

/-- A number or a word is complete before anything that is no part of it. -/
theorem scanFrom?_complete {place : Place} {value : Document} (hfinish : finish? place = some [.scalar value])
    (hadvance : ∀ c ∈ rest.head?,
      advance? place c = (begin? c).map fun p => (p.1, .scalar value :: p.2)) :
    scanFrom? place found rest = scanFrom? .between (.scalar value :: found) rest := by
  cases rest with
  | nil =>
    rw [scanFrom?, scanFrom?, hfinish]
    simp [finish?]
  | cons c rest =>
    rw [scanFrom?, scanFrom?, hadvance c rfl, advance?]
    cases begin? c with
    | none => rfl
    | some p => simp

theorem scanFrom?_number_ends {cs : List Char} {value : Document} (hrest : Ends rest)
    (hvalue : readNumber? cs = some value) :
    scanFrom? (.number cs.reverse) found rest = scanFrom? .between (.scalar value :: found) rest := by
  refine scanFrom?_complete (by simp [finish?, hvalue]) fun c hc => ?_
  rw [advance?, (hrest c hc).1, List.reverse_reverse, hvalue]
  cases begin? c <;> rfl

theorem scanFrom?_word_ends (cs : List Char) {value : Document} (hrest : Ends rest)
    (hvalue : readWord? cs = some value) :
    scanFrom? (.word cs.reverse) found rest = scanFrom? .between (.scalar value :: found) rest := by
  refine scanFrom?_complete (by simp [finish?, hvalue]) fun c hc => ?_
  rw [advance?, (hrest c hc).2, List.reverse_reverse, hvalue]
  cases begin? c <;> rfl

theorem scanFrom?_numeric {cs : List Char} (h : ∀ c ∈ cs, isNumeric c = true) (read : List Char) :
    scanFrom? (.number read) found (cs ++ rest) = scanFrom? (.number (cs.reverse ++ read)) found rest := by
  induction cs generalizing read with
  | nil => rfl
  | cons c cs ih =>
    obtain ⟨hc, hcs⟩ := List.forall_mem_cons.mp h
    rw [List.cons_append, scanFrom?, advance?, hc]
    simp [ih hcs]

theorem begin?_numeric {c : Char} (h : c = '-' ∨ Decimal.isDigit c = true) :
    begin? c = some (.number [c], []) := by
  rcases h with rfl | h
  · rfl
  · have hnumeric : isNumeric c = true := by simp [isNumeric, h]
    have hne (d : Char) (hd : Decimal.isDigit d = false) : c ≠ d := Decimal.ne_of_isDigit h hd
    simp [begin?, hnumeric, hne ' ' rfl, hne '\n' rfl, hne '\t' rfl, hne '\r' rfl, hne '[' rfl, hne ']' rfl,
      hne '\x7b' rfl, hne '\x7d' rfl, hne ':' rfl, hne ',' rfl, hne '"' rfl]

theorem scanFrom?_number {c : Char} {cs : List Char} {value : Document} (hrest : Ends rest)
    (hc : c = '-' ∨ Decimal.isDigit c = true) (hcs : ∀ d ∈ cs, Decimal.isDigit d = true)
    (hvalue : readNumber? (c :: cs) = some value) :
    scanFrom? .between found (c :: cs ++ rest) = scanFrom? .between (.scalar value :: found) rest := by
  have hnumeric : ∀ d ∈ cs, isNumeric d = true := fun d hd => by simp [isNumeric, hcs d hd]
  rw [List.cons_append, scanFrom?, advance?, begin?_numeric hc, ← scanFrom?_number_ends hrest hvalue]
  simpa using scanFrom?_numeric hnumeric [c]

/-! ### Reading numbers -/

theorem digitChar_ne_zero : ∀ n < 10, 0 < n → n.digitChar ≠ '0' := by decide

theorem head?_toDigits {n : ℕ} (h : 0 < n) : (Nat.toDigits 10 n).head? ≠ some '0' := by
  induction n using Nat.strongRecOn with
  | ind n ih =>
    rcases Nat.lt_or_ge n 10 with hn | hn
    · rw [Nat.toDigits_of_lt_base hn, List.head?_cons, ne_eq, Option.some.injEq]
      exact digitChar_ne_zero n hn h
    · rw [Nat.toDigits_of_base_le (by decide) hn, List.head?_append_of_ne_nil _ Nat.toDigits_ne_nil]
      exact ih (n / 10) (by omega) (by omega)

section

variable {ds : List Char}

theorem readNumber?_digits (hne : ds ≠ []) (hdigits : ∀ d ∈ ds, Decimal.isDigit d = true)
    (hzero : ds.head? = some '0' → ds.length = 1) (hfits : Decimal.numeral ds < 2 ^ 64) :
    readNumber? ds = some (.int (Decimal.numeral ds)) := by
  have hsign : ∀ cs, ds ≠ '-' :: cs := by
    rintro cs rfl
    exact absurd (hdigits '-' (by simp)) (by decide)
  have htake := List.takeWhile_eq_self_iff.mpr hdigits
  have hdrop := List.dropWhile_eq_nil_iff.mpr hdigits
  have hfits' : Decimal.numeral ds < Nat.pow 2 64 := hfits
  unfold readNumber?
  split
  rename_i heq
  split at heq
  · exact absurd rfl (hsign _)
  cases heq
  simpa [htake, hdrop, hne, Decimal.readFraction, hfits'] using hzero

theorem readNumber?_neg_digits (hne : ds ≠ []) (hdigits : ∀ d ∈ ds, Decimal.isDigit d = true)
    (hzero : ds.head? = some '0' → ds.length = 1) (hpos : Decimal.numeral ds ≠ 0)
    (hfits : Decimal.numeral ds ≤ 2 ^ 63) :
    readNumber? ('-' :: ds) = some (.int (-(Decimal.numeral ds : Int))) := by
  have htake := List.takeWhile_eq_self_iff.mpr hdigits
  have hdrop := List.dropWhile_eq_nil_iff.mpr hdigits
  have hfits' : Decimal.numeral ds ≤ Nat.pow 2 63 := hfits
  unfold readNumber?
  simpa [htake, hdrop, hne, Decimal.readFraction, hfits', hpos] using hzero

end

theorem length_toDigits_of_head? {n : ℕ} (h : (Nat.toDigits 10 n).head? = some '0') :
    (Nat.toDigits 10 n).length = 1 := by
  rcases Nat.eq_zero_or_pos n with rfl | hn
  · rfl
  · exact absurd h (head?_toDigits hn)

theorem toList_toString_neg {m : ℕ} (h : 0 < m) :
    (toString (-(m : ℤ))).toList = '-' :: Nat.toDigits 10 m := by
  have hneg : ¬(0 : ℤ) ≤ -(m : ℤ) := by omega
  rw [Int.toString_eq_repr, Int.repr_eq_if, if_neg hneg, Int.neg_neg, Int.toNat_natCast,
    String.toList_append]
  exact congrArg _ String.toList_ofList

/-- **A whole number** is one token. -/
theorem scanFrom?_toString {n : ℤ} (hlow : -9223372036854775808 ≤ n) (hhigh : n ≤ 18446744073709551615)
    (hrest : Ends rest) :
    scanFrom? .between found ((toString n).toList ++ rest) =
      scanFrom? .between (.scalar (.int n) :: found) rest := by
  have hdigits := Decimal.isDigit_toDigits n.natAbs
  rcases lt_or_ge n 0 with hn | hn
  · obtain ⟨m, rfl⟩ : ∃ m : ℕ, n = -(m : ℤ) := ⟨n.natAbs, by omega⟩
    rw [Int.natAbs_neg, Int.natAbs_natCast] at hdigits
    have hvalue := readNumber?_neg_digits Nat.toDigits_ne_nil hdigits length_toDigits_of_head?
      (by rw [Decimal.numeral_toDigits]; omega) (by rw [Decimal.numeral_toDigits]; omega)
    rw [Decimal.numeral_toDigits] at hvalue
    rw [toList_toString_neg (by omega)]
    exact scanFrom?_number hrest (.inl rfl) hdigits hvalue
  · obtain ⟨m, rfl⟩ := Int.eq_ofNat_of_zero_le hn
    rw [Int.natAbs_natCast] at hdigits
    have hvalue := readNumber?_digits Nat.toDigits_ne_nil hdigits length_toDigits_of_head?
      (by rw [Decimal.numeral_toDigits]; omega)
    rw [Decimal.numeral_toDigits] at hvalue
    rw [Decimal.toString_natCast, String.toList_ofList]
    obtain ⟨c, cs, hcs⟩ := List.exists_cons_of_ne_nil (Nat.toDigits_ne_nil (b := 10) (n := m))
    rw [hcs, List.forall_mem_cons] at hdigits
    rw [hcs] at hvalue ⊢
    exact scanFrom?_number hrest (.inr hdigits.1) hdigits.2 hvalue

/-! ### Scanning values -/

/-- The text is scanned as the tokens, whatever was found before and follows. -/
def Scans (text : List Char) (tokens : List Token) : Prop :=
  ∀ (found : List Token) (rest : List Char), Ends rest →
    scanFrom? .between found (text ++ rest) = scanFrom? .between (tokens.reverse ++ found) rest

theorem scanFrom?_punctuation {c : Char} (token : Token) (h : begin? c = some (.between, [token])) :
    scanFrom? .between found (c :: rest) = scanFrom? .between (token :: found) rest := by
  rw [scanFrom?, advance?, h]
  rfl

/-- Texts with commas between them are scanned one by one. -/
theorem scans_intercalate {α : Type} {text : α → List Char} {tokens : α → List Token} :
    ∀ {xs : List α}, (∀ x ∈ xs, Scans (text x) (tokens x)) →
      Scans ([','].intercalate (xs.map text)) ([.comma].intercalate (xs.map tokens))
  | [], _ => fun _ _ _ => rfl
  | [x], h => by simpa using h x
  | x :: y :: xs, h => fun found rest hrest => by
    rw [List.forall_mem_cons] at h
    have hcomma : Ends (',' :: ([','].intercalate ((y :: xs).map text) ++ rest)) :=
      ends_cons (by decide)
    have hfirst := h.1 found _ hcomma
    rw [scanFrom?_punctuation .comma rfl, scans_intercalate h.2 _ _ hrest] at hfirst
    simpa [List.append_assoc] using hfirst

/-- A text between two marks. -/
theorem Scans.enclose {text : List Char} {tokens : List Token} {first last : Token}
    (h : Scans text tokens) (left right : Char) (hleft : begin? left = some (.between, [first]))
    (hright : begin? right = some (.between, [last]))
    (hends : isNumeric right = false ∧ isLetter right = false) :
    Scans (left :: (text ++ [right])) (first :: (tokens ++ [last])) := fun found rest _ => by
  have htext := h (first :: found) (right :: rest) (ends_cons hends)
  rw [scanFrom?_punctuation last hright] at htext
  simpa [scanFrom?_punctuation first hleft] using htext

end Token

open Token

theorem writeItems_eq_map (xs : List Json) : writeItems xs = xs.map write := by
  induction xs with
  | nil => rfl
  | cons x xs ih => rw [writeItems, ih, List.map_cons]

theorem itemsTokens_eq_map (xs : List Json) : itemsTokens xs = xs.map tokens := by
  induction xs with
  | nil => rfl
  | cons x xs ih => rw [itemsTokens, ih, List.map_cons]

/-- The text of a member. -/
def writeMember (p : String × Json) : String := writeText p.1 ++ ":" ++ p.2.write

theorem writeMembers_eq_map (members : List (String × Json)) :
    writeMembers members = members.map writeMember := by
  induction members with
  | nil => rfl
  | cons p members ih => rw [writeMembers, ih, List.map_cons, writeMember]

/-- The tokens of a member. -/
def memberTokens (p : String × Json) : List Token := .text (some p.1) :: .colon :: p.2.tokens

theorem membersTokens_eq_map (members : List (String × Json)) :
    membersTokens members = members.map memberTokens := by
  induction members with
  | nil => rfl
  | cons p members ih => rw [membersTokens, ih, List.map_cons, memberTokens]

theorem scans_writeMember {p : String × Json} (h : Scans p.2.write.toList p.2.tokens) :
    Scans (writeMember p).toList (memberTokens p) := fun found rest hrest => by
  have hvalue := h (.colon :: .text (some p.1) :: found) rest hrest
  rw [← scanFrom?_punctuation (c := ':') .colon rfl, ← scanFrom?_writeText] at hvalue
  simpa [writeMember, memberTokens] using hvalue

mutual

/-- **The text of a value** is scanned as the tokens of the value. -/
theorem scans_write : ∀ {depth : ℕ} {v : Json}, v.Plain depth → Scans (write v).toList v.tokens
  | _, .null, _ => fun _ _ hrest => scanFrom?_word_ends ['n', 'u', 'l', 'l'] hrest rfl
  | _, .flag true, _ => fun _ _ hrest => scanFrom?_word_ends ['t', 'r', 'u', 'e'] hrest rfl
  | _, .flag false, _ => fun _ _ hrest =>
    scanFrom?_word_ends ['f', 'a', 'l', 's', 'e'] hrest rfl
  | _, .int n, h => fun found rest hrest => by
    rw [Plain] at h
    rw [write, tokens, scanFrom?_toString h.1 h.2 hrest]
    rfl
  | _, .text s, _ => fun found rest _ => by
    rw [write, tokens, scanFrom?_writeText]
    rfl
  | depth + 1, .list items, h => by
    rw [Plain] at h
    have hitems := scans_intercalate (scans_items h)
    have hlist := hitems.enclose '[' ']' rfl rfl (by decide)
    simpa [write, tokens, writeItems_eq_map, itemsTokens_eq_map, Function.comp_def] using hlist
  | depth + 1, .object members, h => by
    rw [Plain] at h
    have hmembers := scans_intercalate (scans_members h)
    have hobject := hmembers.enclose '\x7b' '\x7d' rfl rfl (by decide)
    simpa [write, tokens, writeMembers_eq_map, membersTokens_eq_map, Function.comp_def] using hobject
  | 0, .list _, h | 0, .object _, h | _, .double _, h => by
    simp [Plain] at h

theorem scans_items : ∀ {depth : ℕ} {xs : List Json}, PlainItems depth xs →
    ∀ x ∈ xs, Scans (write x).toList x.tokens
  | _, [], _ => by simp
  | _, _ :: _, h => by
    rw [PlainItems] at h
    exact List.forall_mem_cons.mpr ⟨scans_write h.1, scans_items h.2⟩

theorem scans_members : ∀ {depth : ℕ} {members : List (String × Json)}, PlainMembers depth members →
    ∀ p ∈ members, Scans (writeMember p).toList (memberTokens p)
  | _, [], _ => by simp
  | _, (key, x) :: _, h => by
    rw [PlainMembers] at h
    exact List.forall_mem_cons.mpr ⟨scans_writeMember (scans_write h.1), scans_members h.2⟩

end

end Json

namespace Document

open Json (Token)

variable {frames : List Frame}

/-! ### Building documents -/

theorem nested_eq {container : Document} (h : frames.length < maxDepth) :
    nested frames container = container := by
  have hdrop : frames.drop (maxDepth - 1) = [] := List.drop_eq_nil_iff.mpr (Nat.le_pred_of_lt h)
  rw [nested, hdrop]
  rfl

theorem recordOf_map (members : List (String × Json)) :
    recordOf (members.map fun p => (some p.1, ofJson p.2)).reverse = .record (ofMembers members) := by
  have hall : (members.map fun p => (some p.1, ofJson p.2)).mapM
      (fun m : Option String × Document => m.1.map fun key => (key, m.2)) = some (ofMembers members) := by
    rw [List.mapM_map, ofMembers_eq_map]
    exact mapM_eq_some_map fun _ _ => rfl
  rw [recordOf, List.reverse_reverse, hall]

/-- A container in the course of reading: how it is held open, what may come next at its beginning and
after a comma, and what it is when complete. -/
structure Row (β : Type) where
  held : List β → Frame
  first : Expect
  again : Expect
  closing : Token
  complete : List β → Document
  comma : ∀ (items : List β) (frames : List Frame),
    Reading.take ⟨.next, held items :: frames, none⟩ .comma = some ⟨again, held items :: frames, none⟩
  empty : ∀ frames : List Frame, Reading.take ⟨first, held [] :: frames, none⟩ closing =
    Reading.close frames (nested frames (complete []))
  close : ∀ (items : List β) (frames : List Frame),
    Reading.take ⟨.next, held items :: frames, none⟩ closing =
      Reading.close frames (nested frames (complete items.reverse))

/-- A list. -/
def Row.list : Row Document where
  held := .list
  first := .valueOrEnd
  again := .value
  closing := .closeList
  complete := .list
  comma _ _ := rfl
  empty _ := rfl
  close _ _ := rfl

/-- A record. -/
def Row.record : Row (Option String × Document) where
  held := .record
  first := .keyOrEnd
  again := .key
  closing := .closeRecord
  complete members := recordOf members.reverse
  comma _ _ := rfl
  empty _ := rfl
  close members _ := by
    rw [List.reverse_reverse]
    rfl

section

variable {α β : Type} {row : Row β} {tokens : α → List Token} {item : α → β}

/-- The tokens are read as one more item of the row. -/
def Row.Adds (row : Row β) (frames : List Frame) (tokens : List Token) (item : β) : Prop :=
  ∀ (items : List β) (e : Expect), e = row.first ∨ e = row.again →
    tokens.foldlM Reading.take ⟨e, row.held items :: frames, none⟩ =
      some ⟨.next, row.held (item :: items) :: frames, none⟩

/-- Items with commas between them are added to a row one by one. -/
theorem Row.adds_intercalate : ∀ {x : α} {xs : List α} (items : List β) {e : Expect},
    e = row.first ∨ e = row.again → (∀ y ∈ x :: xs, row.Adds frames (tokens y) (item y)) →
      ([.comma].intercalate ((x :: xs).map tokens)).foldlM Reading.take
          ⟨e, row.held items :: frames, none⟩ =
        some ⟨.next, row.held (((x :: xs).map item).reverse ++ items) :: frames, none⟩
  | x, [], items, e, he, h => by simpa using h x (by simp) items e he
  | x, y :: xs, items, e, he, h => by
    rw [List.forall_mem_cons] at h
    have hrest := adds_intercalate (item x :: items) (.inr rfl) h.2
    rw [List.map_cons, List.map_cons, List.intercalate_cons_cons, List.foldlM_append, List.foldlM_append,
      h.1 items e he]
    simp only [Option.bind_eq_bind, Option.bind_some, List.foldlM_cons, List.foldlM_nil, row.comma]
    simpa using hrest

/-- **A container**, item by item. -/
theorem Row.foldlM_items (row : Row β) {xs : List α} (h : ∀ x ∈ xs, row.Adds frames (tokens x) (item x)) :
    ([.comma].intercalate (xs.map tokens) ++ [row.closing]).foldlM Reading.take
        ⟨row.first, row.held [] :: frames, none⟩ =
      Reading.close frames (nested frames (row.complete (xs.map item))) := by
  cases xs with
  | nil => simpa using row.empty frames
  | cons x xs =>
    rw [List.foldlM_append, adds_intercalate [] (.inl rfl) h]
    simp [row.close]

end

mutual

/-- **The tokens of a value** build its document. -/
theorem foldlM_tokens : ∀ {depth : ℕ} {v : Json} {e : Expect} (frames : List Frame), v.Plain depth →
    frames.length + depth ≤ maxDepth → e = .valueOrEnd ∨ e = .value →
      v.tokens.foldlM Reading.take ⟨e, frames, none⟩ = Reading.close frames (ofJson v)
  | _, .null, e, frames, _, _, he | _, .flag _, e, frames, _, _, he | _, .int _, e, frames, _, _, he
  | _, .text _, e, frames, _, _, he => by
    obtain rfl | rfl := he <;> simp [Json.tokens, Reading.take, ofJson]
  | depth + 1, .list items, e, frames, h, hdepth, he => by
    rw [Json.Plain] at h
    have hopen : Reading.take ⟨e, frames, none⟩ .openList =
        some ⟨.valueOrEnd, .list [] :: frames, none⟩ := by
      obtain rfl | rfl := he <;> rfl
    have hitems := Row.list.foldlM_items (adds_items h hdepth)
    rw [nested_eq (by omega)] at hitems
    rw [Json.tokens, Json.itemsTokens_eq_map, List.foldlM_cons, hopen, ofJson, ofItems_eq_map]
    exact hitems
  | depth + 1, .object members, e, frames, h, hdepth, he => by
    rw [Json.Plain] at h
    have hopen : Reading.take ⟨e, frames, none⟩ .openRecord =
        some ⟨.keyOrEnd, .record [] :: frames, none⟩ := by
      obtain rfl | rfl := he <;> rfl
    have hmembers := Row.record.foldlM_items (adds_members h hdepth)
    rw [nested_eq (by omega)] at hmembers
    rw [Json.tokens, Json.membersTokens_eq_map, List.foldlM_cons, hopen, ofJson, ← recordOf_map]
    exact hmembers
  | 0, .list _, _, _, h, _, _ | 0, .object _, _, _, h, _, _ | _, .double _, _, _, h, _, _ => by
    simp [Json.Plain] at h

theorem adds_items : ∀ {depth : ℕ} {xs : List Json} {frames : List Frame}, Json.PlainItems depth xs →
    frames.length + (depth + 1) ≤ maxDepth → ∀ x ∈ xs, Row.list.Adds frames x.tokens (ofJson x)
  | _, [], _, _, _ => by simp
  | _, _ :: _, frames, h, hdepth => by
    rw [Json.PlainItems] at h
    refine List.forall_mem_cons.mpr ⟨fun items e he => ?_, adds_items h.2 hdepth⟩
    exact foldlM_tokens _ h.1 (by rw [List.length_cons]; omega) he

theorem adds_members : ∀ {depth : ℕ} {members : List (String × Json)} {frames : List Frame},
    Json.PlainMembers depth members → frames.length + (depth + 1) ≤ maxDepth →
      ∀ p ∈ members, Row.record.Adds frames (Json.memberTokens p) (some p.1, ofJson p.2)
  | _, [], _, _, _ => by simp
  | _, (key, x) :: _, frames, h, hdepth => by
    rw [Json.PlainMembers] at h
    refine List.forall_mem_cons.mpr ⟨fun items e he => ?_, adds_members h.2 hdepth⟩
    have hkey : Reading.take ⟨e, .record items :: frames, none⟩ (.text (some key)) =
        some ⟨.colon, .keyed items (some key) :: frames, none⟩ := by
      obtain rfl | rfl := he <;> rfl
    have hcolon : Reading.take ⟨.colon, .keyed items (some key) :: frames, none⟩ .colon =
        some ⟨.value, .valued items (some key) :: frames, none⟩ := rfl
    have hvalue := foldlM_tokens (.valued items (some key) :: frames) h.1
      (by rw [List.length_cons]; omega) (.inr rfl)
    change List.foldlM Reading.take ⟨e, .record items :: frames, none⟩ _ = _
    rw [Json.memberTokens, List.foldlM_cons, hkey, Option.bind_eq_bind, Option.bind_some, List.foldlM_cons,
      hcolon, Option.bind_eq_bind, Option.bind_some, hvalue]
    rfl

end

/-- **What was written is read back**, as the document of the value. -/
theorem read?_write {v : Json} (h : v.Plain maxDepth) : read? v.write = some (ofJson v) := by
  have hscan : Token.scan? v.write = some v.tokens := by
    have hscans := Json.scans_write h [] [] Token.ends_nil
    rw [List.append_nil, List.append_nil] at hscans
    rw [Token.scan?, hscans, Token.scanFrom?]
    simp [Token.finish?]
  rw [read?, hscan, Option.bind_eq_bind, Option.bind_some,
    foldlM_tokens [] h (Nat.le_of_eq (Nat.zero_add _)) (.inr rfl)]
  rfl

end Document

end RaftMysql
