import RaftMysql.Proofs.Json.Standing

/-!
# Desired values that change at one place

A value is `Json.Exact` if no part of it is a double. When an exact value is laid over another one and
that is found to be the same as before, the desired value is in place in it to the letter
(`Json.inPlace_of_same_overlay`). If then a scalar of the desired value changes, laying it over the live
one puts that scalar where it belongs and does nothing else (`Json.overlay_setAt`).
-/

namespace RaftMysql.Json

/-! ### Values without doubles -/

/-- No part of the value is a double. -/
inductive Exact : Json → Prop
  | null : Exact .null
  | scalar {v : Json} (hscalar : v.IsScalar) (hdouble : ∀ bits, v ≠ .double bits) : Exact v
  | list {items : List Json} (h : ∀ item ∈ items, Exact item) : Exact (.list items)
  | object {members : Table Json} (h : ∀ p ∈ members, Exact p.2) : Exact (.object members)

@[simp] theorem exact_flag {b : Bool} : (Json.flag b).Exact := .scalar trivial (by simp)

@[simp] theorem exact_int {n : Int} : (Json.int n).Exact := .scalar trivial (by simp)

@[simp] theorem exact_text {s : String} : (Json.text s).Exact := .scalar trivial (by simp)

@[simp] theorem exact_object_nil : (Json.object []).Exact := .object (by simp)

@[simp] theorem exact_list {items : List Json} :
    (Json.list items).Exact ↔ ∀ item ∈ items, item.Exact := by
  refine ⟨fun h => ?_, .list⟩
  cases h with
  | scalar hscalar => cases hscalar
  | list h => exact h

@[simp] theorem exact_ofMembers {members : List (String × Option Json)}
    (hnodup : (members.map Prod.fst).Nodup) :
    (ofMembers members).Exact ↔ ∀ m ∈ members, ∀ v ∈ m.2, v.Exact := by
  constructor
  · intro h m hm v hv
    have hget : Table.get? _ m.1 = some v := (member?_ofMembers_of_mem hnodup hm).trans hv
    cases h with
    | scalar hscalar => cases hscalar
    | object h => exact h _ (Table.mem_of_get? hget)
  · refine fun h => .object fun p hp => ?_
    obtain ⟨m, hm, hp⟩ := List.mem_filterMap.mp (Table.mem_of_mem_ofPairs hp)
    obtain ⟨v, hv, rfl⟩ := Option.map_eq_some_iff.mp hp
    exact h m hm v hv

@[simp] theorem exact_ofPairs {members : List (String × Json)}
    (hnodup : (members.map Prod.fst).Nodup) :
    (ofPairs members).Exact ↔ ∀ m ∈ members, m.2.Exact := by
  have hkeys : ((members.map fun m => (m.1, some m.2)).map Prod.fst).Nodup := by
    rw [List.map_map]
    exact hnodup
  rw [ofPairs_eq_ofMembers, exact_ofMembers hkeys, List.forall_mem_map]
  simp

@[simp] theorem exact_ofTexts (t : Table String) : (ofTexts t).Exact := by
  refine .object fun p hp => ?_
  obtain ⟨q, -, rfl⟩ := List.mem_map.mp hp
  exact exact_text

theorem eq_of_same {live desired : Json} (hexact : desired.Exact)
    (h : live.same desired = true) : live = desired := by
  induction hexact generalizing live with
  | null => cases live <;> simp_all [same]
  | @scalar desired hscalar hdouble =>
    cases desired with
    | flag | int | text => cases live <;> simp_all [same]
    | double bits => exact absurd rfl (hdouble bits)
    | null | list | object => exact hscalar.elim
  | @list desired _ ih =>
    cases live with
    | list items =>
      have hsame := List.forall₂_iff_get.mp (same_list.mp h)
      refine congrArg Json.list (List.ext_get hsame.1 fun i hi hi' => ?_)
      exact ih _ (List.get_mem desired ⟨i, hi'⟩) (hsame.2 i hi hi')
    | _ => simp [same] at h
  | @object desired _ ih =>
    cases live with
    | object members =>
      have hsame := List.forall₂_iff_get.mp (same_object_iff_forall₂.mp h)
      refine congrArg Json.object (List.ext_get hsame.1 fun i hi hi' => ?_)
      obtain ⟨hkey, hvalue⟩ := hsame.2 i hi hi'
      exact Prod.ext hkey (ih _ (List.get_mem desired ⟨i, hi'⟩) hvalue)
    | _ => simp [same] at h

/-! ### Overlays that change nothing -/

theorem itemsInPlace_iff {items desired : List Json} :
    ItemsInPlace items desired ↔ List.Forall₂ InPlace items desired := by
  induction desired generalizing items with
  | nil => simp [ItemsInPlace]
  | cons value desired ih => cases items <;> simp [ItemsInPlace, ih]

/-- **An exact value that changed nothing** when it was laid over the live one is in place there. -/
theorem inPlace_of_same_overlay {live desired : Json} (hexact : desired.Exact)
    (horder : desired.InOrder) (h : live.same (live.overlay desired) = true) :
    live.InPlace desired := by
  induction hexact generalizing live with
  | null => trivial
  | scalar hscalar hdouble =>
    rw [overlay_of_isScalar hscalar] at h
    rw [eq_of_same (.scalar hscalar hdouble) h]
    exact inPlace_self horder
  | @list desired _ ih =>
    rw [InOrder, itemsInOrder_iff] at horder
    cases live with
    | list items =>
      rw [overlay_list, same_list] at h
      split at h <;> rename_i hlength
      · rw [overlayItems_eq_zipWith hlength, List.forall₂_iff_get] at h
        rw [InPlace]
        refine ⟨items, rfl, itemsInPlace_iff.mpr (List.forall₂_iff_get.mpr ⟨hlength, ?_⟩)⟩
        intro i hi hi'
        have hmem := List.get_mem desired ⟨i, hi'⟩
        exact ih _ hmem (horder _ hmem) (by simpa using h.2 i hi (by simpa [hlength] using hi'))
      · exact absurd h.length_eq hlength
    | _ => simp [overlay, same] at h
  | @object desired _ ih =>
    cases live with
    | object members =>
      refine (inPlace_object horder.1).mpr fun key value hvalue hnull => ?_
      rw [overlay_object] at h
      have hrel := rel_get?_of_same h key
      rw [get?_overlayMembers horder.1, show Table.get? desired key = some value from hvalue] at hrel
      have hmem := Table.mem_of_get? hvalue
      rcases hold : Table.get? members key with _ | old <;> rw [hold] at hrel
      · cases value <;> first | exact absurd rfl hnull | cases hrel
      · have hpart : old.same (old.overlay value) = true := by simpa [overlayAt] using hrel
        exact ⟨old, rfl, ih _ hmem (membersInOrder_iff.mp horder.2 _ hmem) hpart⟩
    | _ => simp [overlay, same] at h

/-! ### A scalar that changes -/

theorem ne_null_of_isScalar {v : Json} (h : v.IsScalar) : v ≠ .null := by
  rintro rfl
  exact h

theorem inPlace_of_isScalar {live desired : Json} (h : desired.IsScalar) :
    live.InPlace desired ↔ live = desired := by
  cases desired with
  | flag | int | double | text => rw [InPlace] <;> simp
  | null | list | object => exact h.elim

theorem ne_null_of_at? {v value : Json} {path : List String} (hat : v.at? path = some value)
    (hnull : value ≠ .null) : v ≠ .null := by
  rintro rfl
  cases path with
  | nil => exact hnull (Option.some.inj hat).symm
  | cons => cases hat

/-- What the live object has under the first key of a path that leads through the desired one. -/
theorem InPlace.member? {live desired value : Json} {key : String} {path : List String}
    (horder : desired.InOrder) (h : live.InPlace desired)
    (hat : desired.at? (key :: path) = some value) (hnull : value ≠ .null) :
    ∃ members given v inner, live = .object members ∧ desired = .object given ∧
      Table.get? members key = some v ∧ Table.get? given key = some inner ∧
      inner.at? path = some value ∧ v.InPlace inner := by
  rw [Json.at?] at hat
  obtain ⟨inner, hinner, hrest⟩ := Option.bind_eq_some_iff.mp hat
  cases desired with
  | object given =>
    obtain ⟨members, rfl, -⟩ : ∃ members, live = .object members ∧ MembersInPlace members given := by
      rwa [InPlace] at h
    obtain ⟨v, hv, hplace⟩ := (inPlace_object horder.1).mp h key inner hinner
      (ne_null_of_at? hrest hnull)
    exact ⟨members, given, v, inner, rfl, rfl, hv, hinner, hrest, hplace⟩
  | _ => cases hinner

theorem InPlace.at? {live desired value : Json} {path : List String} (horder : desired.InOrder)
    (h : live.InPlace desired) (hat : desired.at? path = some value) (hscalar : value.IsScalar) :
    live.at? path = some value := by
  induction path generalizing live desired with
  | nil =>
    obtain rfl := Option.some.inj hat
    rw [(inPlace_of_isScalar hscalar).mp h, Json.at?]
  | cons key path ih =>
    obtain ⟨members, given, v, inner, rfl, rfl, hv, hinner, hrest, hplace⟩ :=
      h.member? horder hat (ne_null_of_isScalar hscalar)
    have hinner := membersInOrder_iff.mp horder.2 _ (Table.mem_of_get? hinner)
    rw [Json.at?, Json.member?, hv, Option.bind_some]
    exact ih hinner hplace hrest

/-- **A desired value in place, changed in one scalar,** changes only that of the live value that it is
laid over. -/
theorem overlay_setAt {live desired old value : Json} {path : List String} (hlive : live.InOrder)
    (horder : desired.InOrder) (h : live.InPlace desired) (hat : desired.at? path = some old)
    (hold : old ≠ .null) (hscalar : value.IsScalar) :
    live.overlay (desired.setAt path value) = live.setAt path value := by
  induction path generalizing live desired with
  | nil => exact overlay_of_isScalar hscalar
  | cons key path ih =>
    have hsame := overlay_of_inPlace hlive h
    obtain ⟨members, given, v, inner, rfl, rfl, hv, hinner, hrest, hplace⟩ := h.member? horder hat hold
    rw [overlay_object, object.injEq] at hsame
    have hpart : v.overlay (inner.setAt path value) = v.setAt path value :=
      ih (membersInOrder_iff.mp hlive.2 _ (Table.mem_of_get? hv))
        (membersInOrder_iff.mp horder.2 _ (Table.mem_of_get? hinner)) hplace hrest
    have hset : ∀ {t : Table Json} {w : Json}, Table.get? t key = some w →
        (Json.object t).setAt (key :: path) value = .object (t.insert key (w.setAt path value)) := by
      intro t w hw
      rw [setAt, Json.member?, hw, Option.getD_some]
      rfl
    rw [hset hv, hset hinner, overlay_object]
    have hgiven := Table.sorted_insert horder.1 key (inner.setAt path value)
    refine congrArg object ((ordered_overlayMembers hlive.1 _).ext (Table.sorted_insert hlive.1 _ _)
      fun k => ?_)
    rw [get?_overlayMembers hgiven, Table.get?_insert, Table.get?_insert]
    split <;> rename_i hk
    · rw [← hk, hv, overlayAt, hpart]
    · rw [← get?_overlayMembers horder.1, hsame]

end RaftMysql.Json
