import RaftMysql.Proofs.Json.Overlay

/-!
# Desired values that stand in place

`Json.InPlace live desired` says that whatever the desired value sets is so in the live one already.
This is what an overlay brings about (`inPlace_overlay`), and where it is so an overlay changes nothing
(`overlay_of_inPlace`), so laying a value over another twice is laying it once. What the desired value
does not set may change: two values that agree on the rest (`Json.Agree`) have it in place together.
-/

namespace RaftMysql.Json

/-! ### The relations -/

mutual

/-- What the desired value sets is so in the live one. A `null` sets nothing. -/
def InPlace (live : Json) : Json → Prop
  | .null => True
  | .object desired => ∃ members, live = .object members ∧ MembersInPlace members desired
  | .list desired => ∃ items, live = .list items ∧ ItemsInPlace items desired
  | desired => live = desired

def MembersInPlace (members : Table Json) : List (String × Json) → Prop
  | [] => True
  | (key, value) :: rest =>
    (value ≠ .null → ∃ v, Table.get? members key = some v ∧ InPlace v value) ∧
      MembersInPlace members rest

def ItemsInPlace : List Json → List Json → Prop
  | items, [] => items = []
  | items, value :: rest =>
    ∃ item others, items = item :: others ∧ InPlace item value ∧ ItemsInPlace others rest

end

mutual

/-- The two values are equal in all that the desired value sets. What only one of them has under a key
that the desired value does not set, makes no difference. -/
def Agree (a b : Json) : Json → Prop
  | .null => True
  | .object desired => ∃ as bs, a = .object as ∧ b = .object bs ∧ MembersAgree as bs desired
  | .list desired => ∃ xs ys, a = .list xs ∧ b = .list ys ∧ ItemsAgree xs ys desired
  | _ => a = b
termination_by structural desired => desired

def MembersAgree (as bs : Table Json) : List (String × Json) → Prop
  | [] => True
  | (key, value) :: rest =>
    (value ≠ .null → ∃ v w, Table.get? as key = some v ∧ Table.get? bs key = some w ∧
      Agree v w value) ∧ MembersAgree as bs rest
termination_by structural desired => desired

def ItemsAgree : List Json → List Json → List Json → Prop
  | xs, ys, [] => xs = [] ∧ ys = []
  | xs, ys, value :: rest =>
    ∃ x others y others', xs = x :: others ∧ ys = y :: others' ∧ Agree x y value ∧
      ItemsAgree others others' rest
termination_by structural _ _ desired => desired

end

mutual

/-- **What agrees with a value that has the desired one in place** has it in place as well. -/
theorem InPlace.of_agree {a b : Json} :
    ∀ {desired : Json}, InPlace a desired → Agree a b desired → InPlace b desired
  | .null, _, _ => trivial
  | .flag _, h, h' | .int _, h, h' | .double _, h, h' | .text _, h, h' => by
    rw [InPlace] at h ⊢
    · rw [Agree] at h'
      · exact h' ▸ h
      all_goals simp
    all_goals simp
  | .list desired, h, h' => by
    rw [InPlace] at h
    rw [Agree] at h'
    obtain ⟨xs, rfl, h⟩ := h
    obtain ⟨_, ys, heq, rfl, h'⟩ := h'
    obtain rfl := list.inj heq
    rw [InPlace]
    exact ⟨ys, rfl, itemsInPlace_of_agree h h'⟩
  | .object desired, h, h' => by
    rw [InPlace] at h
    rw [Agree] at h'
    obtain ⟨as, rfl, h⟩ := h
    obtain ⟨_, bs, heq, rfl, h'⟩ := h'
    obtain rfl := object.inj heq
    rw [InPlace]
    exact ⟨bs, rfl, membersInPlace_of_agree h h'⟩

theorem membersInPlace_of_agree {as bs : Table Json} :
    ∀ {desired : List (String × Json)}, MembersInPlace as desired → MembersAgree as bs desired →
      MembersInPlace bs desired
  | [], _, _ => trivial
  | (key, value) :: rest, h, h' => by
    rw [MembersInPlace] at h ⊢
    rw [MembersAgree] at h'
    refine ⟨fun hnull => ?_, membersInPlace_of_agree h.2 h'.2⟩
    obtain ⟨v, hv, hplace⟩ := h.1 hnull
    obtain ⟨v', w, hv', hw, hagree⟩ := h'.1 hnull
    obtain rfl := Option.some.inj (hv.symm.trans hv')
    exact ⟨w, hw, hplace.of_agree hagree⟩

theorem itemsInPlace_of_agree : ∀ {xs ys desired : List Json}, ItemsInPlace xs desired →
    ItemsAgree xs ys desired → ItemsInPlace ys desired
  | _, _, [], _, h' => by
    rw [ItemsAgree] at h'
    exact h'.2
  | _, _, _ :: _, h, h' => by
    rw [ItemsInPlace] at h ⊢
    rw [ItemsAgree] at h'
    obtain ⟨x, others, rfl, hplace, hrest⟩ := h
    obtain ⟨x', others', y, rest', heq, rfl, hagree, hagrees⟩ := h'
    obtain ⟨rfl, rfl⟩ := List.cons.inj heq
    exact ⟨y, rest', rfl, hplace.of_agree hagree, itemsInPlace_of_agree hrest hagrees⟩

end

/-! ### Overlays of what is in place -/

mutual

/-- **Where the desired value is in place** an overlay changes nothing. -/
theorem overlay_of_inPlace {live : Json} (hlive : live.InOrder) :
    ∀ {desired : Json}, InPlace live desired → live.overlay desired = live
  | .null, _ => by rw [overlay]
  | .flag _, h | .int _, h | .double _, h | .text _, h => by
    rw [InPlace] at h
    · rw [h]
      rfl
    all_goals simp
  | .list desired, h => by
    rw [InPlace] at h
    obtain ⟨items, rfl, h⟩ := h
    rw [InOrder] at hlive
    obtain ⟨hlen, hitems⟩ := overlayItems_of_inPlace hlive h
    rw [overlay_list, if_pos hlen, hitems]
  | .object desired, h => by
    rw [InPlace] at h
    obtain ⟨members, rfl, h⟩ := h
    rw [InOrder] at hlive
    rw [overlay_object, overlayMembers_of_inPlace hlive.1 hlive.2 h]

theorem overlayMembers_of_inPlace {members : Table Json} (hord : members.Ordered)
    (hmembers : MembersInOrder members) :
    ∀ {desired : List (String × Json)}, MembersInPlace members desired →
      overlayMembers members desired = members
  | [], _ => by rw [overlayMembers]
  | (key, value) :: rest, h => by
    rw [MembersInPlace] at h
    have hput : ∀ v, overlayAt (Table.get? members key) (some value) = some v →
        members.insert key v = members := by
      intro v hv
      refine Table.insert_of_get? hord ?_
      by_cases hnull : value = .null
      · rcases hget : Table.get? members key with _ | old <;> rw [hget, hnull] at hv
        · cases hv
        · rw [overlayAt, overlay] at hv
          exact hv
      · obtain ⟨old, hget, hplace⟩ := h.1 hnull
        have hold := membersInOrder_iff.mp hmembers _ (Table.mem_of_get? hget)
        rw [hget, overlayAt, overlay_of_inPlace hold hplace] at hv
        rw [hget, hv]
    rw [overlayMembers_cons]
    split <;> rename_i hat
    · rw [hput _ hat]
      exact overlayMembers_of_inPlace hord hmembers h.2
    · exact overlayMembers_of_inPlace hord hmembers h.2

theorem overlayItems_of_inPlace : ∀ {items desired : List Json}, ItemsInOrder items →
    ItemsInPlace items desired → items.length = desired.length ∧ overlayItems items desired = items
  | _, [], _, h => by
    rw [ItemsInPlace] at h
    obtain rfl := h
    exact ⟨rfl, rfl⟩
  | _, _ :: _, hitems, h => by
    rw [ItemsInPlace] at h
    obtain ⟨item, others, rfl, hplace, hrest⟩ := h
    rw [ItemsInOrder] at hitems
    obtain ⟨hlen, hothers⟩ := overlayItems_of_inPlace hitems.2 hrest
    rw [overlayItems, overlay_of_inPlace hitems.1 hplace, hothers, List.length_cons, hlen]
    exact ⟨rfl, rfl⟩

end

/-! ### Overlays bring the desired value in place -/

mutual

theorem inPlace_self : ∀ {v : Json}, v.InOrder → InPlace v v
  | .null, _ => trivial
  | .flag _, _ | .int _, _ | .double _, _ | .text _, _ => by
    rw [InPlace]
    all_goals simp
  | .list items, h => by
    rw [InOrder] at h
    rw [InPlace]
    exact ⟨items, rfl, itemsInPlace_self h⟩
  | .object members, h => by
    rw [InOrder] at h
    rw [InPlace]
    exact ⟨members, rfl, membersInPlace_of_get? h.2 fun _ => Table.get?_eq_some_of_mem h.1⟩

theorem membersInPlace_of_get? {members : Table Json} : ∀ {desired : List (String × Json)},
    MembersInOrder desired → (∀ p ∈ desired, Table.get? members p.1 = some p.2) →
      MembersInPlace members desired
  | [], _, _ => trivial
  | (key, value) :: rest, h, hget => by
    rw [MembersInOrder] at h
    rw [MembersInPlace]
    exact ⟨fun _ => ⟨value, hget (key, value) (by simp), inPlace_self h.1⟩,
      membersInPlace_of_get? h.2 fun p hp => hget p (List.mem_cons_of_mem _ hp)⟩

theorem itemsInPlace_self : ∀ {items : List Json}, ItemsInOrder items → ItemsInPlace items items
  | [], _ => rfl
  | item :: items, h => by
    rw [ItemsInOrder] at h
    rw [ItemsInPlace]
    exact ⟨item, items, rfl, inPlace_self h.1, itemsInPlace_self h.2⟩

end

mutual

/-- **An overlay** has the desired value in place. -/
theorem inPlace_overlay {live : Json} :
    ∀ {desired : Json}, desired.InOrder → InPlace (live.overlay desired) desired
  | .null, _ => trivial
  | .flag _, _ | .int _, _ | .double _, _ | .text _, _ => by
    rw [InPlace]
    all_goals simp [overlay]
  | .list desired, h => by
    match live with
    | .list items =>
      rw [overlay_list]
      by_cases hlen : items.length = desired.length
      · rw [InOrder] at h
        rw [if_pos hlen, InPlace]
        exact ⟨_, rfl, itemsInPlace_overlay hlen h⟩
      · rw [if_neg hlen]
        exact inPlace_self h
    | .null | .flag _ | .int _ | .double _ | .text _ | .object _ => exact inPlace_self h
  | .object desired, h => by
    match live with
    | .object members =>
      rw [InOrder] at h
      rw [overlay_object, InPlace]
      exact ⟨_, rfl, membersInPlace_overlay h.1 h.2 fun _ => Table.get?_eq_some_of_mem h.1⟩
    | .null | .flag _ | .int _ | .double _ | .text _ | .list _ => exact inPlace_self h

/-- The induction is over a part of the desired members, each of which the overlay finds under its
key. -/
theorem membersInPlace_overlay {members desired : Table Json} (hord : desired.Ordered) :
    ∀ {part : List (String × Json)}, MembersInOrder part →
      (∀ p ∈ part, Table.get? desired p.1 = some p.2) →
        MembersInPlace (overlayMembers members desired) part
  | [], _, _ => trivial
  | (key, value) :: part, h, hget => by
    rw [MembersInOrder] at h
    rw [MembersInPlace]
    refine ⟨fun hnull => ?_,
      membersInPlace_overlay hord h.2 fun p hp => hget p (List.mem_cons_of_mem _ hp)⟩
    have hmerged := @get?_overlayMembers members desired hord key
    rw [hget (key, value) (by simp)] at hmerged
    rcases hold : Table.get? members key with _ | old <;> rw [hold] at hmerged
    · have hgiven : value.isNull = false := by
        cases value <;> first | rfl | exact absurd rfl hnull
      rw [overlayAt, if_neg (by simp [hgiven])] at hmerged
      exact ⟨value, hmerged, inPlace_self h.1⟩
    · exact ⟨_, hmerged, inPlace_overlay h.1⟩

theorem itemsInPlace_overlay : ∀ {items desired : List Json}, items.length = desired.length →
    ItemsInOrder desired → ItemsInPlace (overlayItems items desired) desired
  | items, [], hlen, _ => by
    rw [ItemsInPlace, overlayItems]
  | item :: items, value :: rest, hlen, h => by
    rw [ItemsInOrder] at h
    rw [overlayItems, ItemsInPlace]
    exact ⟨_, _, rfl, inPlace_overlay h.1, itemsInPlace_overlay (Nat.succ.inj hlen) h.2⟩

end

mutual

theorem agree_of_inPlace {a b : Json} :
    ∀ {desired : Json}, InPlace a desired → InPlace b desired → Agree a b desired
  | .null, _, _ => trivial
  | .flag _, h, h' | .int _, h, h' | .double _, h, h' | .text _, h, h' => by
    rw [InPlace] at h h'
    · rw [Agree]
      · rw [h, h']
      all_goals simp
    all_goals simp
  | .list desired, h, h' => by
    rw [InPlace] at h h'
    obtain ⟨xs, rfl, h⟩ := h
    obtain ⟨ys, rfl, h'⟩ := h'
    rw [Agree]
    exact ⟨xs, ys, rfl, rfl, itemsAgree_of_inPlace h h'⟩
  | .object desired, h, h' => by
    rw [InPlace] at h h'
    obtain ⟨as, rfl, h⟩ := h
    obtain ⟨bs, rfl, h'⟩ := h'
    rw [Agree]
    exact ⟨as, bs, rfl, rfl, membersAgree_of_inPlace h h'⟩

theorem membersAgree_of_inPlace {as bs : Table Json} :
    ∀ {desired : List (String × Json)}, MembersInPlace as desired → MembersInPlace bs desired →
      MembersAgree as bs desired
  | [], _, _ => trivial
  | (key, value) :: rest, h, h' => by
    rw [MembersInPlace] at h h'
    rw [MembersAgree]
    refine ⟨fun hnull => ?_, membersAgree_of_inPlace h.2 h'.2⟩
    obtain ⟨v, hv, hplace⟩ := h.1 hnull
    obtain ⟨w, hw, hplace'⟩ := h'.1 hnull
    exact ⟨v, w, hv, hw, agree_of_inPlace hplace hplace'⟩

theorem itemsAgree_of_inPlace : ∀ {xs ys desired : List Json}, ItemsInPlace xs desired →
    ItemsInPlace ys desired → ItemsAgree xs ys desired
  | _, _, [], h, h' => by
    rw [ItemsInPlace] at h h'
    exact ⟨h, h'⟩
  | _, _, _ :: _, h, h' => by
    rw [ItemsInPlace] at h h'
    obtain ⟨x, others, rfl, hplace, hrest⟩ := h
    obtain ⟨y, others', rfl, hplace', hrest'⟩ := h'
    rw [ItemsAgree]
    exact ⟨x, others, y, others', rfl, rfl, agree_of_inPlace hplace hplace',
      itemsAgree_of_inPlace hrest hrest'⟩

end

/-! ### Members of objects in place -/

/-- What a desired member sets is so in the live one. -/
def InPlaceAt (live desired : Option Json) : Prop :=
  ∀ value ∈ desired, value ≠ .null → ∃ v ∈ live, InPlace v value

theorem membersInPlace_iff {members : Table Json} {desired : List (String × Json)} :
    MembersInPlace members desired ↔ ∀ p ∈ desired, InPlaceAt (members.get? p.1) (some p.2) := by
  induction desired with
  | nil => simp [MembersInPlace]
  | cons p rest ih =>
    rw [MembersInPlace, ih, List.forall_mem_cons]
    simp [InPlaceAt]

/-- **Objects in place** are so member by member. -/
theorem inPlace_object {members desired : Table Json} (h : desired.Ordered) :
    InPlace (object members) (object desired) ↔
      ∀ key, InPlaceAt (members.get? key) (desired.get? key) := by
  have hmembers : InPlace (object members) (object desired) ↔ MembersInPlace members desired := by
    rw [InPlace]
    simp
  rw [hmembers, membersInPlace_iff]
  constructor
  · intro hall key value hvalue
    have hmem := Table.mem_of_get? hvalue
    exact hall (key, value) hmem value rfl
  · rintro hall ⟨key, value⟩ hp
    have hget := hall key
    rwa [Table.get?_eq_some_of_mem h hp] at hget

@[simp] theorem inPlaceAt_none {live : Option Json} : InPlaceAt live none := fun _ h => by cases h

theorem inPlaceAt_self {member : Option Json} (h : ∀ v ∈ member, v.InOrder) :
    InPlaceAt member member :=
  fun v hv _ => ⟨v, hv, inPlace_self (h v hv)⟩

theorem inPlaceAt_text {s : String} : InPlaceAt (some (text s)) (some (text s)) :=
  inPlaceAt_self (by simp [InOrder])

theorem inPlace_ofMembers {members : Table Json} {desired : List (String × Option Json)}
    (hnodup : (desired.map Prod.fst).Nodup)
    (h : ∀ m ∈ desired, InPlaceAt ((object members).member? m.1) m.2) :
    InPlace (object members) (ofMembers desired) := by
  refine (inPlace_object (Table.sorted_ofPairs _)).mpr fun key => ?_
  change InPlaceAt ((object members).member? key) ((ofMembers desired).member? key)
  by_cases hkey : key ∈ desired.map Prod.fst
  · obtain ⟨m, hm, rfl⟩ := List.mem_map.mp hkey
    rw [member?_ofMembers_of_mem hnodup hm]
    exact h m hm
  · rw [member?_ofMembers_eq_none hkey]
    exact inPlaceAt_none

/-! ### Values that are the same as themselves -/

mutual

/-- Every double in the value is a number. -/
def IsReal : Json → Prop
  | .double bits => (Float.ofBits bits == Float.ofBits bits) = true
  | .list items => ItemsAreReal items
  | .object members => MembersAreReal members
  | _ => True

def ItemsAreReal : List Json → Prop
  | [] => True
  | item :: items => IsReal item ∧ ItemsAreReal items

def MembersAreReal : List (String × Json) → Prop
  | [] => True
  | (_, value) :: members => IsReal value ∧ MembersAreReal members

end

mutual

/-- **A value is the same as itself** if every double in it is a number. -/
theorem same_self_iff : ∀ {v : Json}, v.same v = true ↔ v.IsReal
  | .null | .flag _ | .int _ | .text _ => by simp [same, IsReal]
  | .double _ => Iff.rfl
  | .list _ => sameItems_self_iff
  | .object _ => sameMembers_self_iff

theorem sameItems_self_iff :
    ∀ {items : List Json}, sameItems items items = true ↔ ItemsAreReal items
  | [] => by simp [sameItems, ItemsAreReal]
  | item :: items => by
    rw [sameItems, Bool.and_eq_true, same_self_iff, sameItems_self_iff, ItemsAreReal]

theorem sameMembers_self_iff :
    ∀ {members : List (String × Json)}, sameMembers members members = true ↔ MembersAreReal members
  | [] => by simp [sameMembers, MembersAreReal]
  | (key, value) :: members => by
    rw [sameMembers, beq_self_eq_true, Bool.true_and, Bool.and_eq_true, same_self_iff,
      sameMembers_self_iff, MembersAreReal]

end

end RaftMysql.Json
