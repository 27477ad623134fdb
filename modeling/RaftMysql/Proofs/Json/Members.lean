import RaftMysql.Json.Document
import Mathlib.Tactic.Common
import Mathlib.Order.Basic
import Mathlib.Data.String.Basic

/-!
# Members of objects

Tables are in order of their keys (`Table.Ordered`), which every operation keeps, and a table in
order is known by what it has under each key (`Table.Ordered.ext`). What an object made of pairs has
under a key is read off the pairs from the last to the first (`Json.member?_ofPairs_cons`,
`Json.member?_ofMembers_cons`), without putting them in order. A value all of whose objects are in
order is what its document stands for (`Json.ofDocument?_ofJson`).
-/

namespace RaftMysql

namespace Table

variable {α : Type} {t : Table α} {key : String}

/-! ### Order -/

/-- The keys stand in ascending order. -/
def Ordered (t : Table α) : Prop := t.Pairwise fun p q => p.1 < q.1

theorem mem_of_mem_insert {value : α} {p : String × α} (h : p ∈ t.insert key value) :
    p = (key, value) ∨ p ∈ t := by
  induction t with
  | nil => exact .inl (by simpa [insert] using h)
  | cons q rest ih =>
    obtain ⟨k, v⟩ := q
    unfold insert at h
    split at h
    · exact (List.mem_cons.mp h).imp_right (List.mem_cons_of_mem _)
    · split at h
      · exact List.mem_cons.mp h
      · rcases List.mem_cons.mp h with rfl | h
        · exact .inr (by simp)
        · exact (ih h).imp_right (List.mem_cons_of_mem _)

theorem sorted_insert (h : Ordered t) (key : String) (value : α) : Ordered (t.insert key value) := by
  induction t with
  | nil => exact List.pairwise_singleton _ _
  | cons q rest ih =>
    obtain ⟨k, v⟩ := q
    obtain ⟨hhead, htail⟩ := List.pairwise_cons.mp h
    unfold insert
    split
    · rename_i heq
      subst heq
      exact List.pairwise_cons.mpr ⟨hhead, htail⟩
    · rename_i hne
      split
      · rename_i hlt
        refine List.pairwise_cons.mpr ⟨fun p hp => ?_, h⟩
        rcases List.mem_cons.mp hp with rfl | hp
        · exact hlt
        · exact lt_trans hlt (hhead p hp)
      · rename_i hge
        refine List.pairwise_cons.mpr ⟨fun p hp => ?_, ih htail⟩
        rcases mem_of_mem_insert hp with rfl | hp
        · exact lt_of_le_of_ne (not_lt.mp hge) hne
        · exact hhead p hp

theorem sorted_foldl_insert (pairs : List (String × α)) (h : Ordered t) :
    Ordered (pairs.foldl (fun t p => t.insert p.1 p.2) t) := by
  induction pairs generalizing t with
  | nil => exact h
  | cons p pairs ih => exact ih (sorted_insert h p.1 p.2)

theorem sorted_ofPairs (pairs : List (String × α)) : Ordered (ofPairs pairs) :=
  sorted_foldl_insert pairs List.Pairwise.nil

theorem get?_eq_none_of_forall_lt (h : ∀ p ∈ t, key < p.1) : t.get? key = none := by
  induction t with
  | nil => rfl
  | cons q rest ih =>
    obtain ⟨k, v⟩ := q
    have hne : k ≠ key := ne_of_gt (h (k, v) (by simp))
    unfold get?
    rw [if_neg hne]
    exact ih fun p hp => h p (List.mem_cons_of_mem _ hp)

theorem get?_eq_some_of_mem (h : Ordered t) {p : String × α} (hp : p ∈ t) :
    t.get? p.1 = some p.2 := by
  induction t with
  | nil => cases hp
  | cons q rest ih =>
    obtain ⟨k, v⟩ := q
    obtain ⟨hhead, htail⟩ := List.pairwise_cons.mp h
    unfold get?
    rcases List.mem_cons.mp hp with rfl | hp
    · exact if_pos rfl
    · rw [if_neg (ne_of_lt (hhead p hp))]
      exact ih htail hp

theorem mem_of_get? {v : α} (h : t.get? key = some v) : (key, v) ∈ t := by
  induction t with
  | nil => cases h
  | cons q rest ih =>
    obtain ⟨k, w⟩ := q
    unfold get? at h
    split at h
    · rename_i hk
      obtain rfl := Option.some.inj h
      subst hk
      exact List.mem_cons_self
    · exact List.mem_cons_of_mem _ (ih h)

/-- **Tables in order** are the same when they have the same under every key. -/
theorem Ordered.ext {t' : Table α} (h : Ordered t) (h' : Ordered t')
    (heq : ∀ key, t.get? key = t'.get? key) : t = t' := by
  have hmem : ∀ {t t' : Table α}, Ordered t → (∀ key, t.get? key = t'.get? key) →
      ∀ p ∈ t, p ∈ t' := by
    intro t t' ht heq p hp
    have hget : t'.get? p.1 = some p.2 := by rw [← heq, get?_eq_some_of_mem ht hp]
    exact mem_of_get? hget
  have hset : ∀ p, p ∈ t ↔ p ∈ t' :=
    fun p => ⟨hmem h heq p, hmem h' (fun key => (heq key).symm) p⟩
  have hirrefl : ∀ {t : Table α}, Ordered t → t.Nodup := fun ht =>
    ht.imp fun hlt hpq => absurd (congrArg Prod.fst hpq) (ne_of_lt hlt)
  have hperm : t.Perm t' := (List.perm_ext_iff_of_nodup (hirrefl h) (hirrefl h')).mpr hset
  exact hperm.eq_of_pairwise (fun p q _ _ hpq hqp => absurd (lt_trans hpq hqp) (lt_irrefl _)) h h'

/-! ### Look-up -/

theorem get?_foldl_insert (pairs : List (String × α)) (t : Table α) (key : String) :
    (pairs.foldl (fun t p => t.insert p.1 p.2) t).get? key =
      ((ofPairs pairs).get? key).or (t.get? key) := by
  unfold ofPairs
  induction pairs generalizing t with
  | nil => rfl
  | cons p pairs ih =>
    rw [List.foldl_cons, List.foldl_cons, ih, ih (Table.insert [] p.1 p.2), get?_insert,
      get?_insert, Option.or_assoc]
    split <;> rfl

@[simp] theorem get?_ofPairs_nil : (ofPairs ([] : List (String × α))).get? key = none := rfl

@[simp] theorem get?_ofPairs_cons {k : String} {v : α} {pairs : List (String × α)} :
    (ofPairs ((k, v) :: pairs)).get? key =
      ((ofPairs pairs).get? key).or (if k = key then some v else none) := by
  have hfold : ofPairs ((k, v) :: pairs) =
      pairs.foldl (fun t p => t.insert p.1 p.2) (Table.insert [] k v) := rfl
  rw [hfold, get?_foldl_insert, get?_insert, get?_nil]

theorem mem_of_mem_ofPairs {pairs : List (String × α)} {p : String × α} (h : p ∈ ofPairs pairs) :
    p ∈ pairs := by
  have hfold : ∀ {pairs : List (String × α)} {t : Table α},
      p ∈ pairs.foldl (fun t p => t.insert p.1 p.2) t → p ∈ t ∨ p ∈ pairs := by
    intro pairs
    induction pairs with
    | nil => exact fun h => .inl h
    | cons q pairs ih =>
      intro t h
      rcases ih h with h | h
      · rcases mem_of_mem_insert h with rfl | h
        · exact .inr List.mem_cons_self
        · exact .inl h
      · exact .inr (List.mem_cons_of_mem _ h)
  exact (hfold h).resolve_left (by simp)

theorem mem_keys_iff : key ∈ t.map Prod.fst ↔ (t.get? key).isSome := by
  induction t with
  | nil => simp
  | cons p rest ih =>
    rw [List.map_cons, List.mem_cons, ih, get?]
    by_cases hk : p.1 = key
    · simp [hk]
    · simp [hk, Ne.symm hk]

theorem mem_keys_ofPairs {pairs : List (String × α)} :
    key ∈ (ofPairs pairs).map Prod.fst ↔ key ∈ pairs.map Prod.fst := by
  rw [mem_keys_iff]
  induction pairs with
  | nil => simp
  | cons p pairs ih =>
    rw [get?_ofPairs_cons, Option.isSome_or, Bool.or_eq_true, ih, List.map_cons, List.mem_cons]
    by_cases hk : p.1 = key
    · simp [hk]
    · simp [hk, Ne.symm hk]

theorem ofPairs_of_ordered (h : Ordered t) : ofPairs t = t := by
  refine (sorted_ofPairs t).ext h fun key => ?_
  induction t with
  | nil => rfl
  | cons p rest ih =>
    obtain ⟨k, v⟩ := p
    obtain ⟨hhead, htail⟩ := List.pairwise_cons.mp h
    rw [get?_ofPairs_cons, ih htail, get?]
    by_cases hk : k = key
    · subst hk
      rw [get?_eq_none_of_forall_lt hhead, if_pos rfl, Option.none_or]
    · rw [if_neg hk, if_neg hk, Option.or_none]

theorem insert_of_get? (h : Ordered t) {v : α} (hget : t.get? key = some v) :
    t.insert key v = t := by
  refine (sorted_insert h key v).ext h fun k => ?_
  rw [get?_insert]
  split <;> rename_i hk
  · rw [← hk, hget]
  · rfl

theorem Ordered.map {β : Type} (h : Ordered t) (f : α → β) :
    Ordered (t.map fun p => (p.1, f p.2)) :=
  List.pairwise_map.mpr h

theorem get?_map {β : Type} {f : α → β} :
    get? (t.map fun p => (p.1, f p.2)) key = (t.get? key).map f := by
  induction t with
  | nil => rfl
  | cons p rest ih =>
    rw [List.map_cons, get?, get?, ih]
    split <;> rfl

theorem get?_filter {p : String → Bool} :
    get? (t.filter fun q => p q.1) key = if p key then t.get? key else none := by
  induction t with
  | nil => simp
  | cons q rest ih =>
    rw [List.filter_cons]
    by_cases hq : q.1 = key
    · subst hq
      split
      · rw [get?, if_pos rfl, get?, if_pos rfl]
      · rename_i hp
        rw [ih, if_neg hp]
    · split
      · rw [get?, if_neg hq, get?, if_neg hq, ih]
      · rw [ih, get?, if_neg hq]

theorem erase_sublist : (t.erase key).Sublist t := by
  induction t with
  | nil => exact List.Sublist.refl _
  | cons p rest ih =>
    unfold erase
    split
    · exact List.sublist_cons_self _ _
    · exact ih.cons_cons _

theorem Ordered.erase (h : Ordered t) : Ordered (t.erase key) := h.sublist erase_sublist

theorem get?_erase_self (h : Ordered t) : (t.erase key).get? key = none := by
  induction t with
  | nil => rfl
  | cons p rest ih =>
    obtain ⟨k, v⟩ := p
    obtain ⟨hhead, htail⟩ := List.pairwise_cons.mp h
    unfold Table.erase
    split <;> rename_i hk
    · subst hk
      exact get?_eq_none_of_forall_lt hhead
    · unfold get?
      rw [if_neg hk]
      exact ih htail

theorem get?_erase_of_ne {k : String} (h : k ≠ key) : (t.erase k).get? key = t.get? key := by
  induction t with
  | nil => rfl
  | cons p rest ih =>
    obtain ⟨k', v⟩ := p
    unfold erase
    split
    · rename_i hk
      rw [get?, if_neg (hk ▸ h)]
    · rw [get?, get?, ih]

end Table

namespace Json

variable {key k : String}

@[simp] theorem member?_ofPairs_nil : (ofPairs []).member? key = none := rfl

@[simp] theorem member?_ofPairs_cons {v : Json} {members : List (String × Json)} :
    (ofPairs ((k, v) :: members)).member? key =
      ((ofPairs members).member? key).or (if k = key then some v else none) :=
  Table.get?_ofPairs_cons

@[simp] theorem member?_ofMembers_nil : (ofMembers []).member? key = none := rfl

@[simp] theorem member?_ofMembers_cons {v : Option Json} {members : List (String × Option Json)} :
    (ofMembers ((k, v) :: members)).member? key =
      ((ofMembers members).member? key).or (if k = key then v else none) := by
  match v with
  | none =>
    have hskip : ofMembers ((k, none) :: members) = ofMembers members := rfl
    rw [hskip, ite_self, Option.or_none]
  | some v => exact Table.get?_ofPairs_cons

@[simp] theorem ofPairs_ne_null {members : List (String × Json)} : ofPairs members ≠ null := by
  simp [ofPairs]

@[simp] theorem ofMembers_ne_null {members : List (String × Option Json)} :
    ofMembers members ≠ null := by
  simp [ofMembers]

@[simp] theorem ofTexts_ne_null {t : Table String} : ofTexts t ≠ null := by
  simp [ofTexts]

theorem member?_eraseMember_of_ne {v : Json} (h : k ≠ key) :
    (v.eraseMember k).member? key = v.member? key := by
  cases v with
  | object members => exact Table.get?_erase_of_ne h
  | _ => rfl

theorem ofPairs_eq_ofMembers (members : List (String × Json)) :
    ofPairs members = ofMembers (members.map fun p => (p.1, some p.2)) := by
  rw [ofMembers, List.filterMap_map]
  simp [ofPairs]

theorem member?_ofMembers_eq_none {members : List (String × Option Json)}
    (h : key ∉ members.map Prod.fst) : (ofMembers members).member? key = none := by
  induction members with
  | nil => rfl
  | cons m members ih =>
    rw [List.map_cons, List.mem_cons, not_or] at h
    rw [member?_ofMembers_cons, ih h.2, if_neg (Ne.symm h.1), Option.none_or]

theorem member?_ofMembers_of_mem {members : List (String × Option Json)}
    (hnodup : (members.map Prod.fst).Nodup) {m : String × Option Json} (hm : m ∈ members) :
    (ofMembers members).member? m.1 = m.2 := by
  induction members with
  | nil => cases hm
  | cons n members ih =>
    obtain ⟨hnot, hrest⟩ := List.nodup_cons.mp hnodup
    rw [member?_ofMembers_cons]
    rcases List.mem_cons.mp hm with rfl | hm
    · rw [member?_ofMembers_eq_none hnot, if_pos rfl, Option.none_or]
    · have hne : n.1 ≠ m.1 := fun heq => hnot (heq ▸ List.mem_map_of_mem hm)
      rw [ih hrest hm, if_neg hne, Option.or_none]

theorem member?_ofMembers_append {ms ns : List (String × Option Json)} :
    (ofMembers (ms ++ ns)).member? key =
      ((ofMembers ns).member? key).or ((ofMembers ms).member? key) := by
  induction ms with
  | nil => rw [List.nil_append, member?_ofMembers_nil, Option.or_none]
  | cons m ms ih => rw [List.cons_append, member?_ofMembers_cons, ih, member?_ofMembers_cons,
      Option.or_assoc]

theorem member?_ofMembers_eq {ms : List (String × Option Json)} {value : Option Json}
    (hnodup : (ms.map Prod.fst).Nodup) (hkey : key ∈ ms.map Prod.fst)
    (h : ∀ m ∈ ms, key = m.1 → m.2 = value) : (ofMembers ms).member? key = value := by
  obtain ⟨m, hm, rfl⟩ := List.mem_map.mp hkey
  rw [member?_ofMembers_of_mem hnodup hm, h m hm rfl]

/-! ### Values in order -/

mutual

/-- The members of every object in the value stand in the order of their keys. -/
def InOrder : Json → Prop
  | .list xs => ItemsInOrder xs
  | .object members => Table.Ordered members ∧ MembersInOrder members
  | _ => True

def ItemsInOrder : List Json → Prop
  | [] => True
  | x :: xs => InOrder x ∧ ItemsInOrder xs

def MembersInOrder : List (String × Json) → Prop
  | [] => True
  | (_, x) :: xs => InOrder x ∧ MembersInOrder xs

end

theorem itemsInOrder_iff {xs : List Json} : ItemsInOrder xs ↔ ∀ x ∈ xs, InOrder x := by
  induction xs with
  | nil => simp [ItemsInOrder]
  | cons x xs ih => rw [ItemsInOrder, ih, List.forall_mem_cons]

theorem membersInOrder_iff {members : List (String × Json)} :
    MembersInOrder members ↔ ∀ p ∈ members, InOrder p.2 := by
  induction members with
  | nil => simp [MembersInOrder]
  | cons p members ih => rw [MembersInOrder, ih, List.forall_mem_cons]

mutual

/-- **A value in order** is the value of its document. -/
theorem ofDocument?_ofJson : ∀ {v : Json}, v.InOrder → ofDocument? (.ofJson v) = some v
  | .null, _ | .flag _, _ | .int _, _ | .double _, _ | .text _, _ => rfl
  | .list xs, h => by
    rw [InOrder] at h
    rw [Document.ofJson, ofDocument?, ofDocuments?_ofItems h]
    rfl
  | .object members, h => by
    rw [InOrder] at h
    rw [Document.ofJson, ofDocument?, ofMembers?_ofMembers h.2, Option.map_some,
      Table.ofPairs_of_ordered h.1]

theorem ofDocuments?_ofItems :
    ∀ {xs : List Json}, ItemsInOrder xs → ofDocuments? (Document.ofItems xs) = some xs
  | [], _ => rfl
  | x :: xs, h => by
    rw [ItemsInOrder] at h
    rw [Document.ofItems, ofDocuments?, ofDocument?_ofJson h.1, ofDocuments?_ofItems h.2]
    rfl

theorem ofMembers?_ofMembers : ∀ {members : List (String × Json)}, MembersInOrder members →
    ofMembers? (Document.ofMembers members) = some members
  | [], _ => rfl
  | (key, x) :: members, h => by
    rw [MembersInOrder] at h
    rw [Document.ofMembers, ofMembers?, ofDocument?_ofJson h.1, ofMembers?_ofMembers h.2]
    rfl

end

end Json

end RaftMysql
