import RaftMysql.Json.Overlay
import RaftMysql.Proofs.Json.Members
import Mathlib.Data.List.Forall2

/-!
# What an overlay has, and what survives it

An overlay of objects has under a key what `overlayAt` says, and only that key of the two objects
counts (`member?_overlay`). `GivesWay old new` says that nothing of the old value is left when the new
one is laid over it. For objects this is read off member by member (`givesWay_ofMembers`), and for
lists element by element, unless their lengths differ (`givesWay_list`).
-/

namespace RaftMysql

theorem forall₂_iff_map_eq {α β γ : Type} {f : α → γ} {g : β → γ} {as : List α} {bs : List β} :
    List.Forall₂ (fun a b => f a = g b) as bs ↔ as.map f = bs.map g := by
  rw [← List.forall₂_eq_eq_eq, List.forall₂_map_left_iff, List.forall₂_map_right_iff]

namespace Json

/-! ### Overlays, member by member -/

/-- What an overlay has under a key, by what the two objects have there. -/
def overlayAt : Option Json → Option Json → Option Json
  | old, none => old
  | none, some new => if new.isNull then none else some new
  | some old, some new => some (old.overlay new)

theorem isSome_overlayAt_of_left {old new : Option Json} (h : old.isSome) :
    (overlayAt old new).isSome := by
  match old, new with
  | some _, none | some _, some _ => rfl

theorem isSome_or_of_overlayAt {old new : Option Json} (h : (overlayAt old new).isSome) :
    old.isSome ∨ new.isSome := by
  match old, new with
  | none, none => cases h
  | some _, _ => exact .inl rfl
  | none, some _ => exact .inr rfl

theorem forall_mem_overlayAt {P : Json → Prop} {old new : Option Json} (hold : ∀ v ∈ old, P v)
    (hnew : ∀ v ∈ new, P v) (hover : ∀ a ∈ old, ∀ b ∈ new, P (a.overlay b)) :
    ∀ v ∈ overlayAt old new, P v := by
  intro v hv
  match old, new with
  | none, none => cases hv
  | some a, none => exact hold v hv
  | none, some b =>
    rw [overlayAt] at hv
    split at hv
    · cases hv
    · exact hnew v hv
  | some a, some b =>
    cases hv
    exact hover a rfl b rfl

theorem overlayMembers_cons {members : Table Json} {key : String} {value : Json}
    {rest : List (String × Json)} :
    overlayMembers members ((key, value) :: rest) =
      overlayMembers (match overlayAt (members.get? key) (some value) with
        | some v => members.insert key v
        | none => members) rest := by
  rw [overlayMembers]
  rcases members.get? key with _ | existing
  · rcases hnull : value.isNull with _ | _ <;> simp [overlayAt, hnull]
  · rfl

theorem ordered_overlayMembers {members : Table Json} (h : members.Ordered)
    (desired : List (String × Json)) : (overlayMembers members desired).Ordered := by
  induction desired generalizing members with
  | nil => exact h
  | cons p rest ih =>
    rw [overlayMembers_cons]
    refine ih ?_
    split
    · exact Table.sorted_insert h _ _
    · exact h

/-- **An overlay of objects** is one of what they have under each key. -/
theorem get?_overlayMembers {members desired : Table Json} (h : desired.Ordered) (key : String) :
    (overlayMembers members desired).get? key =
      overlayAt (members.get? key) (desired.get? key) := by
  induction desired generalizing members with
  | nil => rfl
  | cons p rest ih =>
    obtain ⟨k, value⟩ := p
    obtain ⟨hhead, htail⟩ := List.pairwise_cons.mp h
    have hput : ∀ key', Table.get? (match overlayAt (members.get? k) (some value) with
          | some v => members.insert k v
          | none => members) key' =
        if k = key' then overlayAt (members.get? k) (some value) else members.get? key' := by
      intro key'
      rcases hat : overlayAt (members.get? k) (some value) with _ | v
      · show Table.get? members key' = _
        by_cases heq : k = key'
        · have hold : members.get? k = none := by
            rcases hold : members.get? k with _ | old
            · rfl
            · rw [hold] at hat
              cases hat
          rw [if_pos heq, ← heq, hold]
        · rw [if_neg heq]
      · exact Table.get?_insert members k v key'
    rw [overlayMembers_cons, ih htail, hput]
    by_cases hk : k = key
    · subst hk
      have hrest : Table.get? rest k = none := Table.get?_eq_none_of_forall_lt hhead
      rw [hrest, if_pos rfl, Table.get?, if_pos rfl]
      rfl
    · rw [if_neg hk, Table.get?, if_neg hk]

theorem overlay_object {members desired : Table Json} :
    (object members).overlay (object desired) = object (overlayMembers members desired) := by
  rw [overlay]

theorem member?_overlay {members desired : Table Json} (h : desired.Ordered) (key : String) :
    ((object members).overlay (object desired)).member? key =
      overlayAt (members.get? key) (desired.get? key) := by
  rw [overlay_object]
  exact get?_overlayMembers h key

@[simp] theorem member?_overlay_ofMembers {olds news : List (String × Option Json)} {key : String} :
    ((ofMembers olds).overlay (ofMembers news)).member? key =
      overlayAt ((ofMembers olds).member? key) ((ofMembers news).member? key) :=
  member?_overlay (Table.sorted_ofPairs _) key

theorem overlay_list {xs ys : List Json} :
    (list xs).overlay (list ys) =
      list (if xs.length = ys.length then overlayItems xs ys else ys) := by
  rw [overlay]
  split <;> rfl

theorem overlayItems_eq_zipWith {xs ys : List Json} (h : xs.length = ys.length) :
    overlayItems xs ys = xs.zipWith overlay ys := by
  induction ys generalizing xs with
  | nil =>
    obtain rfl := List.length_eq_zero_iff.mp h
    rfl
  | cons y ys ih =>
    match xs with
    | x :: xs =>
      rw [overlayItems, List.zipWith_cons_cons, ih (Nat.succ.inj h)]

/-! ### Order -/

mutual

/-- **An overlay of values in order** is in order. -/
theorem inOrder_overlay {old : Json} (h : old.InOrder) :
    ∀ {new : Json}, new.InOrder → (old.overlay new).InOrder
  | .null, _ => h
  | .flag _, h' | .int _, h' | .double _, h' | .text _, h' => h'
  | .list ys, h' => by
    match old with
    | .list xs =>
      rw [InOrder] at h h'
      rw [overlay_list, InOrder]
      split
      · exact itemsInOrder_overlayItems h h'
      · exact h'
    | .null | .flag _ | .int _ | .double _ | .text _ | .object _ => exact h'
  | .object desired, h' => by
    match old with
    | .object members =>
      rw [InOrder] at h h'
      rw [overlay_object, InOrder]
      exact ⟨ordered_overlayMembers h.1 desired, membersInOrder_overlayMembers h.2 h'.2⟩
    | .null | .flag _ | .int _ | .double _ | .text _ | .list _ => exact h'

theorem itemsInOrder_overlayItems : ∀ {xs ys : List Json}, ItemsInOrder xs → ItemsInOrder ys →
    ItemsInOrder (overlayItems xs ys)
  | _, [], _, _ => trivial
  | [], _ :: _, _, _ => trivial
  | _ :: _, _ :: _, h, h' =>
    ⟨inOrder_overlay h.1 h'.1, itemsInOrder_overlayItems h.2 h'.2⟩

theorem membersInOrder_overlayMembers {members : Table Json} (h : MembersInOrder members) :
    ∀ {desired : List (String × Json)}, MembersInOrder desired →
      MembersInOrder (overlayMembers members desired)
  | [], _ => h
  | (key, value) :: rest, h' => by
    rw [overlayMembers_cons]
    refine membersInOrder_overlayMembers ?_ h'.2
    have hold : ∀ a ∈ members.get? key, a.InOrder := fun a ha =>
      membersInOrder_iff.mp h _ (Table.mem_of_get? ha)
    have hput : ∀ v ∈ overlayAt (members.get? key) (some value), v.InOrder := by
      refine forall_mem_overlayAt hold (fun b hb => ?_) fun a ha b hb => ?_
      · cases hb
        exact h'.1
      · cases hb
        exact inOrder_overlay (hold a ha) h'.1
    split
    · rename_i v hv
      refine membersInOrder_iff.mpr fun p hp => ?_
      rcases Table.mem_of_mem_insert hp with rfl | hp
      · exact hput v hv
      · exact membersInOrder_iff.mp h p hp
    · exact h

end

/-! ### What gives way -/

/-- Nothing of the old value is left when the new one is laid over it. -/
def GivesWay (old new : Json) : Prop := old.overlay new = new

/-- Nothing of what was under a key is left when something else is laid over it. -/
def GivesWayAt (old new : Option Json) : Prop := ∀ a ∈ old, ∃ b ∈ new, GivesWay a b

theorem givesWay_scalar {old new : Json} (hnull : new ≠ .null) (hlist : ∀ xs, new ≠ .list xs)
    (hobject : ∀ t, new ≠ .object t) : GivesWay old new := by
  unfold GivesWay
  rw [overlay]
  · exact hnull
  · exact hobject
  · exact hlist

@[simp] theorem givesWay_text {v : Json} {s : String} : GivesWay v (.text s) :=
  givesWay_scalar (by simp) (by simp) (by simp)

@[simp] theorem givesWay_int {v : Json} {n : Int} : GivesWay v (.int n) :=
  givesWay_scalar (by simp) (by simp) (by simp)

@[simp] theorem givesWay_flag {v : Json} {b : Bool} : GivesWay v (.flag b) :=
  givesWay_scalar (by simp) (by simp) (by simp)

theorem overlay_ne_null {old new : Json} (h : new ≠ .null) : old.overlay new ≠ .null := by
  cases new with
  | null => exact absurd rfl h
  | flag _ | int _ | double _ | text _ => exact h
  | list ys =>
    cases old with
    | list xs =>
      rw [overlay_list]
      simp
    | _ => exact h
  | object new =>
    cases old with
    | object old =>
      rw [overlay_object]
      simp
    | _ => exact h

@[simp] theorem givesWayAt_none {new : Option Json} : GivesWayAt none new := by
  simp [GivesWayAt]

@[simp] theorem givesWayAt_some {a b : Json} : GivesWayAt (some a) (some b) ↔ GivesWay a b := by
  simp [GivesWayAt]

@[simp] theorem not_givesWayAt_some_none {a : Json} : ¬ GivesWayAt (some a) none := by
  simp [GivesWayAt]

theorem overlayAt_eq_iff {old new : Option Json} (h : new ≠ some .null) :
    overlayAt old new = new ↔ GivesWayAt old new := by
  match old, new with
  | none, none => simp [overlayAt, GivesWayAt]
  | some a, none => simp [overlayAt, GivesWayAt]
  | none, some b =>
    have hnull : b.isNull = false := by
      cases b <;> first | rfl | exact absurd rfl h
    simp [overlayAt, GivesWayAt, hnull]
  | some a, some b => simp [overlayAt, GivesWayAt, GivesWay]

theorem givesWay_object {members desired : Table Json} (hm : members.Ordered)
    (hd : desired.Ordered) (hnull : ∀ key, desired.get? key ≠ some .null) :
    GivesWay (object members) (object desired) ↔
      ∀ key, GivesWayAt (members.get? key) (desired.get? key) := by
  unfold GivesWay
  rw [overlay_object]
  constructor
  · intro h key
    rw [← overlayAt_eq_iff (hnull key), ← get?_overlayMembers hd, object.inj h]
  · intro h
    refine congrArg object ((ordered_overlayMembers hm desired).ext hd fun key => ?_)
    rw [get?_overlayMembers hd, overlayAt_eq_iff (hnull key)]
    exact h key

theorem GivesWay.isSome_member? {members desired : Table Json}
    (h : GivesWay (object members) (object desired)) (hd : desired.Ordered) {key : String}
    (hkey : (members.get? key).isSome) : (desired.get? key).isSome := by
  have hget : (overlayMembers members desired).get? key =
      overlayAt (members.get? key) (desired.get? key) := get?_overlayMembers hd key
  rw [object.inj (overlay_object.symm.trans h)] at hget
  rw [hget]
  exact isSome_overlayAt_of_left hkey

theorem givesWay_ofTexts {old new : Table String} (hold : old.Ordered) (hnew : new.Ordered) :
    GivesWay (ofTexts old) (ofTexts new) ↔
      ∀ key, (old.get? key).isSome → (new.get? key).isSome := by
  have hobj : GivesWay (ofTexts old) (ofTexts new) ↔
      ∀ key, GivesWayAt ((old.get? key).map text) ((new.get? key).map text) := by
    unfold ofTexts
    rw [givesWay_object (hold.map text) (hnew.map text) (by simp [Table.get?_map])]
    simp only [Table.get?_map]
  rw [hobj]
  refine forall_congr' fun key => ?_
  rcases old.get? key with _ | a <;> rcases new.get? key with _ | b <;> simp

theorem givesWay_list {xs ys : List Json} :
    GivesWay (list xs) (list ys) ↔
      (xs.length = ys.length → List.Forall₂ GivesWay xs ys) := by
  have hzip : ∀ {xs ys : List Json}, xs.length = ys.length →
      (xs.zipWith overlay ys = ys ↔ List.Forall₂ GivesWay xs ys) := by
    intro xs ys h
    induction ys generalizing xs with
    | nil =>
      obtain rfl := List.length_eq_zero_iff.mp h
      simp
    | cons y ys ih =>
      match xs with
      | x :: xs =>
        rw [List.zipWith_cons_cons, List.cons.injEq, ih (Nat.succ.inj h), List.forall₂_cons]
        rfl
  unfold GivesWay
  rw [overlay_list, list.injEq]
  by_cases h : xs.length = ys.length
  · rw [if_pos h, overlayItems_eq_zipWith h, hzip h]
    exact ⟨fun hall _ => hall, fun hall => hall h⟩
  · rw [if_neg h]
    exact ⟨fun _ heq => absurd heq h, fun _ => rfl⟩

theorem givesWay_list_of_forall {xs ys : List Json} (h : ∀ x ∈ xs, ∀ y ∈ ys, GivesWay x y) :
    GivesWay (list xs) (list ys) := by
  refine givesWay_list.mpr fun hlen => List.forall₂_iff_zip.mpr ⟨hlen, fun {x y} hxy => ?_⟩
  obtain ⟨hx, hy⟩ := List.of_mem_zip hxy
  exact h x hx y hy

/-- **Objects of the same members** give way member by member. -/
theorem givesWay_ofMembers {olds news : List (String × Option Json)}
    (hkeys : olds.map Prod.fst = news.map Prod.fst) (hnodup : (news.map Prod.fst).Nodup)
    (hnull : ∀ m ∈ news, m.2 ≠ some .null) :
    GivesWay (ofMembers olds) (ofMembers news) ↔
      List.Forall₂ (fun m n => GivesWayAt m.2 n.2) olds news := by
  have hsame : List.Forall₂ (fun m n => m.1 = n.1) olds news := forall₂_iff_map_eq.mpr hkeys
  have hlisted : ∀ key, (ofMembers news).member? key ≠ some .null := by
    intro key
    by_cases hkey : key ∈ news.map Prod.fst
    · obtain ⟨n, hn, rfl⟩ := List.mem_map.mp hkey
      rw [member?_ofMembers_of_mem hnodup hn]
      exact hnull n hn
    · rw [member?_ofMembers_eq_none hkey]
      simp
  have hpair : ∀ {m n}, (m, n) ∈ olds.zip news →
      (ofMembers olds).member? n.1 = m.2 ∧ (ofMembers news).member? n.1 = n.2 := by
    intro m n hmn
    obtain ⟨hm, hn⟩ := List.of_mem_zip hmn
    refine ⟨?_, member?_ofMembers_of_mem hnodup hn⟩
    rw [← (List.forall₂_iff_zip.mp hsame).2 hmn]
    exact member?_ofMembers_of_mem (hkeys ▸ hnodup) hm
  have hobj : GivesWay (ofMembers olds) (ofMembers news) ↔
      ∀ key, GivesWayAt ((ofMembers olds).member? key) ((ofMembers news).member? key) :=
    givesWay_object (Table.sorted_ofPairs _) (Table.sorted_ofPairs _) hlisted
  rw [hobj, List.forall₂_iff_zip]
  constructor
  · intro h
    refine ⟨hsame.length_eq, fun {m n} hmn => ?_⟩
    obtain ⟨hold, hnew⟩ := hpair hmn
    rw [← hold, ← hnew]
    exact h n.1
  · rintro ⟨hlen, h⟩ key
    by_cases hkey : key ∈ news.map Prod.fst
    · obtain ⟨n, hn, rfl⟩ := List.mem_map.mp hkey
      obtain ⟨i, hi, rfl⟩ := List.mem_iff_getElem.mp hn
      have hmn : (olds[i], news[i]) ∈ olds.zip news :=
        List.mem_iff_getElem.mpr ⟨i, by simpa [hlen] using hi, by simp⟩
      obtain ⟨hold, hnew⟩ := hpair hmn
      rw [hold, hnew]
      exact h hmn
    · rw [member?_ofMembers_eq_none (hkeys ▸ hkey)]
      exact fun a ha => absurd ha (by simp)

theorem givesWay_ofPairs {olds news : List (String × Json)}
    (hkeys : olds.map Prod.fst = news.map Prod.fst) (hnodup : (news.map Prod.fst).Nodup)
    (hnull : ∀ m ∈ news, m.2 ≠ .null) :
    GivesWay (ofPairs olds) (ofPairs news) ↔
      List.Forall₂ (fun m n => GivesWay m.2 n.2) olds news := by
  rw [ofPairs_eq_ofMembers, ofPairs_eq_ofMembers, givesWay_ofMembers]
  · simp only [List.forall₂_map_left_iff, List.forall₂_map_right_iff, givesWayAt_some]
  · rw [List.map_map, List.map_map]
    exact hkeys
  · rw [List.map_map]
    exact hnodup
  · intro m hm
    obtain ⟨p, hp, rfl⟩ := List.mem_map.mp hm
    simpa using hnull p hp

end Json

end RaftMysql
