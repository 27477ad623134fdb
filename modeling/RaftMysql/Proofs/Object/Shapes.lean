import RaftMysql.Object.Shape.Basic
import RaftMysql.Proofs.Json.Overlay

/-!
# Values that have a form

`Shape.Holds` says that a value has a form as it stands: it is read as what it is
(`fit?_ofJson`), and one such value laid over another still has the form (`holds_overlay`). Whatever
a plain form brings a document into has that form (`holds_of_fit?`).
-/

namespace RaftMysql

theorem mapM_eq_some_map {α β : Type} {f : α → Option β} {g : α → β} {xs : List α}
    (h : ∀ x ∈ xs, f x = some (g x)) : xs.mapM f = some (xs.map g) := by
  induction xs with
  | nil => rfl
  | cons x xs ih =>
    rw [List.mapM_cons, h x (by simp), ih fun y hy => h y (List.mem_cons_of_mem _ hy)]
    rfl

theorem Document.ofItems_eq_map (xs : List Json) : ofItems xs = xs.map ofJson := by
  induction xs with
  | nil => rfl
  | cons x xs ih => rw [ofItems, ih, List.map_cons]

theorem Document.ofMembers_eq_map (members : List (String × Json)) :
    ofMembers members = members.map fun p => (p.1, ofJson p.2) := by
  induction members with
  | nil => rfl
  | cons p members ih => rw [ofMembers, ih, List.map_cons]

theorem Document.isNull_ofJson {v : Json} : (ofJson v).isNull = v.isNull := by
  cases v <;> rfl

namespace Shape

open Json

mutual

/-- The value has the form, as it stands. A `null` has none, as it stands for what is not there. -/
def Holds : Shape → Json → Prop
  | anything, v => v.InOrder ∧ v ≠ .null
  | list items, v => ∃ xs, v = .list xs ∧ ∀ x ∈ xs, Holds items x
  | table values, v => ∃ t, v = .object t ∧ Table.Ordered t ∧ ∀ p ∈ t, Holds values p.2
  | record fields, v => ∃ t, v = .object t ∧ Table.Ordered t ∧
      (∀ p ∈ t, p.1 ∈ fields.map Prod.fst) ∧ HoldFields fields (Table.get? t)
  | scalar, v => scalar.fit? (.ofJson v) = some v

/-- What is given under the names of the fields has their forms, and is there where it is always
written. -/
def HoldFields : List (String × Bool × Shape) → (String → Option Json) → Prop
  | [], _ => True
  | (name, always, shape) :: fields, given =>
    ((always = true → (given name).isSome) ∧ ∀ v ∈ given name, Holds shape v) ∧
      HoldFields fields given

end

/-- The form has no parts. -/
def isScalar : Shape → Bool
  | anything | list _ | table _ | record _ => false
  | _ => true

theorem holds_scalar {s : Shape} {v : Json} (hs : s.isScalar) :
    s.Holds v ↔ s.fit? (.ofJson v) = some v := by
  cases s with
  | anything | list _ | table _ | record _ => cases hs
  | _ =>
    rw [Holds]
    all_goals simp

theorem scalar_of_holds {s : Shape} {v : Json} (hs : s.isScalar) (h : s.Holds v) :
    v ≠ .null ∧ (∀ xs, v ≠ .list xs) ∧ ∀ t, v ≠ .object t := by
  rw [holds_scalar hs] at h
  refine ⟨?_, fun xs => ?_, fun t => ?_⟩ <;> rintro rfl <;> cases s <;> cases hs <;>
    simp [Document.ofJson, fit?, accepted, Document.text?, Document.flag?, Document.int32?,
      Document.int64?, Document.intBetween?, Document.time?] at h

theorem ne_null_of_holds {s : Shape} {v : Json} (h : s.Holds v) : v ≠ .null := by
  cases s with
  | anything =>
    rw [Holds] at h
    exact h.2
  | list _ | table _ | record _ =>
    rw [Holds] at h
    obtain ⟨_, rfl, _⟩ := h
    simp
  | _ => exact (scalar_of_holds rfl h).1

/-! ### Reading -/

theorem filter_ofMembers {t : Table Json} (h : t.Ordered) (name : String) :
    (Document.ofMembers t).filter (·.1 == name) =
      ((t.get? name).map fun v => (name, Document.ofJson v)).toList := by
  induction t with
  | nil => rfl
  | cons p rest ih =>
    obtain ⟨k, v⟩ := p
    obtain ⟨hhead, htail⟩ := List.pairwise_cons.mp h
    rw [Document.ofMembers, List.filter_cons, ih htail, Table.get?]
    by_cases hk : k = name
    · subst hk
      rw [Table.get?_eq_none_of_forall_lt hhead]
      simp
    · simp [hk]

theorem get?_ofPairs_given {fields : List Field} {t : Table Json} {key : String} :
    (Table.ofPairs (fields.filterMap fun f => (t.get? f.1).map fun v => (f.1, v))).get? key =
      if key ∈ fields.map Prod.fst then t.get? key else none := by
  induction fields with
  | nil => rfl
  | cons f fields ih =>
    rw [List.filterMap_cons, List.map_cons]
    by_cases hf : f.1 = key
    · subst hf
      rw [if_pos List.mem_cons_self]
      rcases hget : t.get? f.1 with _ | v
      · rw [Option.map_none, ih, hget, ite_self]
      · rw [Option.map_some, Table.get?_ofPairs_cons, ih, hget, if_pos rfl]
        split <;> rfl
    · have hmem : key ∈ f.1 :: fields.map Prod.fst ↔ key ∈ fields.map Prod.fst := by
        simp [Ne.symm hf]
      rcases t.get? f.1 with _ | v
      · simp only [Option.map_none, ih, hmem]
      · simp only [Option.map_some, Table.get?_ofPairs_cons, ih, hmem, if_neg hf, Option.or_none]

mutual

/-- **What has a form** is read as it stands. -/
theorem fit?_ofJson : ∀ {s : Shape} {v : Json}, s.Holds v → s.fit? (.ofJson v) = some v
  | anything, v, h => by
    rw [Holds] at h
    rw [fit?]
    exact ofDocument?_ofJson h.1
  | list items, v, h => by
    rw [Holds] at h
    obtain ⟨xs, rfl, h⟩ := h
    have hxs : (Document.ofItems xs).mapM (fun d => fit? items d) = some xs := by
      rw [Document.ofItems_eq_map, List.mapM_map]
      have hall := mapM_eq_some_map (g := id) fun x hx => fit?_ofJson (h x hx)
      rwa [List.map_id] at hall
    rw [Document.ofJson, fit?, hxs]
    rfl
  | table values, v, h => by
    rw [Holds] at h
    obtain ⟨t, rfl, hord, h⟩ := h
    have ht : (Document.ofMembers t).mapM
        (fun m => (fit? values m.2).map fun v => (m.1, v)) = some t := by
      rw [Document.ofMembers_eq_map, List.mapM_map]
      have hall : t.mapM (fun p => (fit? values (Document.ofJson p.2)).map fun v => (p.1, v)) =
          some (t.map id) := mapM_eq_some_map fun p hp => by
        rw [fit?_ofJson (h p hp)]
        rfl
      rwa [List.map_id] at hall
    rw [Document.ofJson, fit?, ht, Option.map_some, ofPairs, Table.ofPairs_of_ordered hord]
  | record fields, v, h => by
    rw [Holds] at h
    obtain ⟨t, rfl, hord, hknown, h⟩ := h
    rw [Document.ofJson, fit?, fitFields?_ofMembers hord h, Option.map_some]
    refine congrArg (some ∘ object) ((Table.sorted_ofPairs _).ext hord fun key => ?_)
    rw [get?_ofPairs_given]
    split
    · rfl
    · rename_i hkey
      refine (Option.eq_none_iff_forall_ne_some.mpr fun v hv => ?_).symm
      exact hkey (hknown _ (Table.mem_of_get? hv))
  | text, v, h | exactly _, v, h | flag, v, h | int32, v, h | int64, v, h | time, v, h
  | bytes, v, h | intOrText, v, h => (holds_scalar rfl).mp h

theorem fitFields?_ofMembers : ∀ {fields : List Field} {t : Table Json}, t.Ordered →
    HoldFields fields t.get? → fitFields? fields (Document.ofMembers t) =
      some (fields.filterMap fun f => (t.get? f.1).map fun v => (f.1, v))
  | [], _, _, _ => by
    rw [fitFields?]
    rfl
  | (name, always, shape) :: fields, t, hord, h => by
    rw [HoldFields] at h
    obtain ⟨⟨halways, hfit⟩, hrest⟩ := h
    rw [fitFields?, filter_ofMembers hord, fitFields?_ofMembers hord hrest, List.filterMap_cons]
    rcases hget : t.get? name with _ | v
    · have hnot : always = false := by
        rw [hget] at halways
        simpa using halways
      simp [hnot]
    · have hv := hfit v hget
      have hnull : (Document.ofJson v).isNull = false := by
        rw [Document.isNull_ofJson]
        cases v <;> first | rfl | exact absurd rfl (ne_null_of_holds hv)
      simp [hnull, fit?_ofJson hv]

end

/-! ### Parts of values -/

section

variable {v : Json} {name : String} {always : Bool} {s : Shape}

theorem HoldFields.field {fields : List Field} {given : String → Option Json}
    (h : HoldFields fields given) (hf : (name, always, s) ∈ fields) :
    (always = true → (given name).isSome) ∧ ∀ v ∈ given name, s.Holds v := by
  induction fields with
  | nil => cases hf
  | cons f fields ih =>
    rw [HoldFields] at h
    rcases List.mem_cons.mp hf with rfl | hf
    · exact h.1
    · exact ih h.2 hf

theorem exists_object_of_holds {fields : List Field} (h : (record fields).Holds v) :
    ∃ t, v = .object t := by
  rw [Holds] at h
  exact h.imp fun _ h => h.1

theorem field_of_holds {fields : List Field} (name : String) (always : Bool) (s : Shape)
    (h : (record fields).Holds v) (hf : (name, always, s) ∈ fields) :
    (always = true → (v.member? name).isSome) ∧ ∀ w ∈ v.member? name, s.Holds w := by
  rw [Holds] at h
  obtain ⟨t, rfl, -, -, h⟩ := h
  exact h.field hf

theorem exists_text_of_holds (h : text.Holds v) : ∃ s, v = .text s := by
  rw [holds_scalar rfl] at h
  cases v <;> simp [Document.ofJson, fit?, accepted, Document.text?] at h ⊢

theorem exists_flag_of_holds (h : flag.Holds v) : ∃ b, v = .flag b := by
  rw [holds_scalar rfl] at h
  cases v <;> simp [Document.ofJson, fit?, accepted, Document.flag?] at h ⊢

theorem exists_int_of_holds (h : int64.Holds v) : ∃ n, v = .int n := by
  rw [holds_scalar rfl] at h
  cases v <;> simp [Document.ofJson, fit?, accepted, Document.int64?, Document.intBetween?] at h ⊢

theorem eq_text_of_holds (h : (exactly name).Holds v) : v = .text name := by
  rw [holds_scalar rfl] at h
  cases v <;> simp [Document.ofJson, fit?] at h ⊢
  exact h

theorem exact_of_holds {fields : List Field} {value : String} (h : (record fields).Holds v)
    (hf : (name, true, exactly value) ∈ fields) : v.member? name = some (.text value) := by
  obtain ⟨hsome, hholds⟩ := field_of_holds name true (exactly value) h hf
  obtain ⟨w, hw⟩ := Option.isSome_iff_exists.mp (hsome rfl)
  rw [hw, eq_text_of_holds (hholds w hw)]

/-- A record with all its fields listed. -/
theorem ofMembers_of_holds {fields : List Field} {members : List (String × Option Json)}
    (h : (record fields).Holds v) (hnodup : (members.map Prod.fst).Nodup)
    (hfields : fields.map Prod.fst ⊆ members.map Prod.fst)
    (hmembers : ∀ m ∈ members, m.2 = v.member? m.1) : ofMembers members = v := by
  rw [Holds] at h
  obtain ⟨t, rfl, hord, hknown, -⟩ := h
  refine congrArg object ((Table.sorted_ofPairs _).ext hord fun key => ?_)
  change (ofMembers members).member? key = Table.get? t key
  by_cases hkey : key ∈ members.map Prod.fst
  · obtain ⟨m, hm, rfl⟩ := List.mem_map.mp hkey
    rw [member?_ofMembers_of_mem hnodup hm, hmembers m hm]
    rfl
  · rw [member?_ofMembers_eq_none hkey]
    refine (Option.eq_none_iff_forall_ne_some.mpr fun w hw => ?_).symm
    exact hkey (hfields (hknown _ (Table.mem_of_get? hw)))

end

mutual

theorem inOrder_of_holds : ∀ {s : Shape} {v : Json}, s.Holds v → v.InOrder
  | anything, v, h => by
    rw [Holds] at h
    exact h.1
  | list items, v, h => by
    rw [Holds] at h
    obtain ⟨xs, rfl, h⟩ := h
    rw [Json.InOrder, Json.itemsInOrder_iff]
    exact fun x hx => inOrder_of_holds (h x hx)
  | table values, v, h => by
    rw [Holds] at h
    obtain ⟨t, rfl, hord, h⟩ := h
    rw [Json.InOrder, Json.membersInOrder_iff]
    exact ⟨hord, fun p hp => inOrder_of_holds (h p hp)⟩
  | record fields, v, h => by
    rw [Holds] at h
    obtain ⟨t, rfl, hord, hknown, h⟩ := h
    rw [Json.InOrder, Json.membersInOrder_iff]
    refine ⟨hord, fun p hp => ?_⟩
    exact inOrder_of_holdFields h (hknown p hp) (Table.get?_eq_some_of_mem hord hp)
  | text, v, h | exactly _, v, h | flag, v, h | int32, v, h | int64, v, h | time, v, h
  | bytes, v, h | intOrText, v, h => by
    obtain ⟨-, hlist, hobject⟩ := scalar_of_holds rfl h
    cases v with
    | list xs => exact absurd rfl (hlist xs)
    | object t => exact absurd rfl (hobject t)
    | _ => trivial

theorem inOrder_of_holdFields : ∀ {fields : List Field} {given : String → Option Json},
    HoldFields fields given → ∀ {name : String} {v : Json}, name ∈ fields.map Prod.fst →
      given name = some v → v.InOrder
  | [], _, _, _, _, hname, _ => by cases hname
  | (name, always, shape) :: fields, given, h, key, v, hname, hv => by
    rw [HoldFields] at h
    rcases List.mem_cons.mp hname with rfl | hname
    · exact inOrder_of_holds (h.1.2 v hv)
    · exact inOrder_of_holdFields h.2 hname hv

end

/-! ### Overlays -/

mutual

/-- **What has a form, laid over what has it too,** has the form. -/
theorem holds_overlay : ∀ {s : Shape} {old new : Json}, s.Holds old → s.Holds new →
    s.Holds (old.overlay new)
  | anything, old, new, h, h' => by
    rw [Holds] at h h' ⊢
    exact ⟨inOrder_overlay h.1 h'.1, overlay_ne_null h'.2⟩
  | list items, old, new, h, h' => by
    rw [Holds] at h h'
    obtain ⟨xs, rfl, h⟩ := h
    obtain ⟨ys, rfl, h'⟩ := h'
    rw [overlay_list, Holds]
    refine ⟨_, rfl, ?_⟩
    split
    · rename_i hlen
      rw [overlayItems_eq_zipWith hlen, ← List.map_uncurry_zip_eq_zipWith]
      intro z hz
      obtain ⟨⟨x, y⟩, hxy, rfl⟩ := List.mem_map.mp hz
      obtain ⟨hx, hy⟩ := List.of_mem_zip hxy
      exact holds_overlay (h x hx) (h' y hy)
    · exact h'
  | table values, old, new, h, h' => by
    rw [Holds] at h h'
    obtain ⟨t, rfl, hord, h⟩ := h
    obtain ⟨t', rfl, hord', h'⟩ := h'
    rw [overlay_object, Holds]
    have hmerged := ordered_overlayMembers hord t'
    refine ⟨_, rfl, hmerged, fun p hp => ?_⟩
    have hget := Table.get?_eq_some_of_mem hmerged hp
    rw [get?_overlayMembers hord'] at hget
    exact forall_mem_overlayAt (fun a ha => h _ (Table.mem_of_get? ha))
      (fun b hb => h' _ (Table.mem_of_get? hb))
      (fun a ha b hb => holds_overlay (h _ (Table.mem_of_get? ha)) (h' _ (Table.mem_of_get? hb)))
      _ hget
  | record fields, old, new, h, h' => by
    rw [Holds] at h h'
    obtain ⟨t, rfl, hord, hknown, h⟩ := h
    obtain ⟨t', rfl, hord', hknown', h'⟩ := h'
    rw [overlay_object, Holds]
    have hmerged := ordered_overlayMembers hord t'
    refine ⟨_, rfl, hmerged, fun p hp => ?_, holdFields_overlay hord' h h'⟩
    have hget := Table.get?_eq_some_of_mem hmerged hp
    rw [get?_overlayMembers hord'] at hget
    rcases isSome_or_of_overlayAt (Option.isSome_of_eq_some hget) with hsome | hsome <;>
      obtain ⟨v, hv⟩ := Option.isSome_iff_exists.mp hsome
    · exact hknown (p.1, v) (Table.mem_of_get? hv)
    · exact hknown' (p.1, v) (Table.mem_of_get? hv)
  | text, old, new, _, h' | exactly _, old, new, _, h' | flag, old, new, _, h'
  | int32, old, new, _, h' | int64, old, new, _, h' | time, old, new, _, h'
  | bytes, old, new, _, h' | intOrText, old, new, _, h' => by
    obtain ⟨hnull, hlist, hobject⟩ := scalar_of_holds rfl h'
    have hgives : GivesWay old new := by
      cases new with
      | null => exact absurd rfl hnull
      | list xs => exact absurd rfl (hlist xs)
      | object t => exact absurd rfl (hobject t)
      | _ => rfl
    rw [hgives]
    exact h'

theorem holdFields_overlay : ∀ {fields : List Field} {old new : Table Json}, new.Ordered →
    HoldFields fields old.get? → HoldFields fields new.get? →
      HoldFields fields (overlayMembers old new).get?
  | [], _, _, _, _, _ => trivial
  | (name, always, shape) :: fields, old, new, hord, h, h' => by
    rw [HoldFields] at h h' ⊢
    obtain ⟨⟨halways, hfit⟩, hrest⟩ := h
    obtain ⟨⟨_, hfit'⟩, hrest'⟩ := h'
    rw [get?_overlayMembers hord]
    exact ⟨⟨fun hkept => isSome_overlayAt_of_left (halways hkept),
      forall_mem_overlayAt hfit hfit' fun a ha b hb => holds_overlay (hfit a ha) (hfit' b hb)⟩,
      holdFields_overlay hord hrest hrest'⟩

end

/-! ### Values that are written out -/

section

variable {fields : List Field} {members : List (String × Option Json)}

@[simp] theorem holds_text {s : String} : text.Holds (.text s) :=
  (holds_scalar rfl).mpr rfl

@[simp] theorem holds_exactly {s : String} : (exactly s).Holds (.text s) :=
  (holds_scalar rfl).mpr (if_pos rfl)

@[simp] theorem holds_flag {b : Bool} : flag.Holds (.flag b) :=
  (holds_scalar rfl).mpr rfl

@[simp] theorem holds_int32 {n : Int} :
    int32.Holds (.int n) ↔ -2147483648 ≤ n ∧ n ≤ 2147483647 := by
  rw [holds_scalar rfl]
  simp only [Document.ofJson, fit?, accepted, Document.int32?, Document.intBetween?]
  split <;> simp [*, ofDocument?]

@[simp] theorem holds_intOrText_int {n : Int} :
    intOrText.Holds (.int n) ↔ -2147483648 ≤ n ∧ n ≤ 2147483647 := by
  rw [holds_scalar rfl]
  simp only [Document.ofJson, fit?, accepted, Document.int32?, Document.intBetween?]
  split <;> simp [*, ofDocument?]

@[simp] theorem holds_list {items : Shape} {xs : List Json} :
    (list items).Holds (.list xs) ↔ ∀ x ∈ xs, items.Holds x := by
  rw [Holds]
  simp

theorem holds_ofTexts {t : Table String} (h : t.Ordered) : (table text).Holds (.ofTexts t) := by
  rw [Holds]
  refine ⟨_, rfl, h.map Json.text, fun p hp => ?_⟩
  obtain ⟨q, -, rfl⟩ := List.mem_map.mp hp
  exact holds_text

/-- **An object of listed members** has the form of a record if it has no others than its fields,
and those in their forms. -/
@[simp] theorem holds_ofMembers :
    (record fields).Holds (.ofMembers members) ↔
      (∀ m ∈ members, m.2.isSome → m.1 ∈ fields.map Prod.fst) ∧
        HoldFields fields fun name => (ofMembers members).member? name := by
  have hkeys : ∀ key, (∃ m ∈ members, m.2.isSome ∧ m.1 = key) ↔
      key ∈ (members.filterMap fun m => m.2.map fun v => (m.1, v)).map Prod.fst := by
    intro key
    simp only [List.mem_map, List.mem_filterMap, Option.map_eq_some_iff, Option.isSome_iff_exists]
    constructor
    · rintro ⟨m, hm, ⟨v, hv⟩, rfl⟩
      exact ⟨(m.1, v), ⟨m, hm, v, hv, rfl⟩, rfl⟩
    · rintro ⟨p, ⟨m, hm, v, hv, rfl⟩, rfl⟩
      exact ⟨m, hm, ⟨v, hv⟩, rfl⟩
  rw [Holds]
  constructor
  · rintro ⟨t, ht, -, hknown, h⟩
    obtain rfl := object.inj ht
    refine ⟨fun m hm hv => ?_, h⟩
    have hkey := Table.mem_keys_ofPairs.mpr ((hkeys m.1).mp ⟨m, hm, hv, rfl⟩)
    obtain ⟨p, hp, hpm⟩ := List.mem_map.mp hkey
    exact hpm ▸ hknown p hp
  · rintro ⟨hknown, h⟩
    refine ⟨_, rfl, Table.sorted_ofPairs _, fun p hp => ?_, h⟩
    obtain ⟨m, hm, hv, hmp⟩ :=
      (hkeys p.1).mpr (Table.mem_keys_ofPairs.mp (List.mem_map_of_mem hp))
    exact hmp ▸ hknown m hm hv

@[simp] theorem holds_ofPairs {pairs : List (String × Json)} :
    (record fields).Holds (.ofPairs pairs) ↔ (∀ p ∈ pairs, p.1 ∈ fields.map Prod.fst) ∧
      HoldFields fields fun name => (Json.ofPairs pairs).member? name := by
  rw [ofPairs_eq_ofMembers, holds_ofMembers, List.forall_mem_map]
  simp only [Option.isSome_some, forall_const]

@[simp] theorem holds_object_nil :
    (record fields).Holds (.object []) ↔ HoldFields fields fun _ => none := by
  have hnil : object [] = .ofMembers [] := rfl
  rw [hnil, holds_ofMembers]
  simp

end

/-! ### Plain forms -/

mutual

/-- No part of the form is a moment or may be anything, and no record has two fields of one name. -/
def isPlain : Shape → Bool
  | anything | time => false
  | list items => isPlain items
  | table values => isPlain values
  | record fields => decide (fields.map Prod.fst).Nodup && arePlain fields
  | _ => true

def arePlain : List (String × Bool × Shape) → Bool
  | [] => true
  | (_, _, shape) :: fields => isPlain shape && arePlain fields

end

/-- The members fill the fields in their order, and none that is always written is left out. -/
inductive Filled : List Field → List (String × Json) → Prop
  | nil : Filled [] []
  | give {name always shape v fields pairs} : shape.Holds v → Filled fields pairs →
      Filled ((name, always, shape) :: fields) ((name, v) :: pairs)
  | skip {name shape fields pairs} : Filled fields pairs →
      Filled ((name, false, shape) :: fields) pairs

namespace Filled

variable {fields : List Field} {pairs : List (String × Json)}

theorem keys_subset (h : Filled fields pairs) : pairs.map Prod.fst ⊆ fields.map Prod.fst := by
  induction h with
  | nil => exact List.Subset.refl _
  | give _ _ ih => exact List.cons_subset_cons _ ih
  | skip _ ih => exact List.subset_cons_of_subset _ ih

theorem holdFields (h : Filled fields pairs) (hnodup : (fields.map Prod.fst).Nodup)
    {given : String → Option Json}
    (hgiven : ∀ name ∈ fields.map Prod.fst, given name = (Json.ofPairs pairs).member? name) :
    HoldFields fields given := by
  induction h with
  | nil => trivial
  | @give name always shape v fields pairs hv hrest ih =>
    obtain ⟨hnot, hrests⟩ := List.nodup_cons.mp hnodup
    have habsent : (Json.ofPairs pairs).member? name = none := by
      rw [ofPairs_eq_ofMembers]
      refine member?_ofMembers_eq_none fun hmem => hnot (hrest.keys_subset ?_)
      simpa using hmem
    have hname : given name = some v := by
      rw [hgiven name List.mem_cons_self, member?_ofPairs_cons, habsent, if_pos rfl, Option.none_or]
    rw [HoldFields, hname]
    refine ⟨⟨fun _ => rfl, fun w hw => Option.some.inj hw ▸ hv⟩, ih hrests fun n hn => ?_⟩
    have hne : name ≠ n := fun heq => hnot (heq ▸ hn)
    rw [hgiven n (List.mem_cons_of_mem _ hn), member?_ofPairs_cons, if_neg hne, Option.or_none]
  | @skip name shape fields pairs hrest ih =>
    obtain ⟨hnot, hrests⟩ := List.nodup_cons.mp hnodup
    have habsent : given name = none := by
      rw [hgiven name List.mem_cons_self, ofPairs_eq_ofMembers]
      refine member?_ofMembers_eq_none fun hmem => hnot (hrest.keys_subset ?_)
      simpa using hmem
    rw [HoldFields, habsent]
    exact ⟨⟨fun h => absurd h (by simp), fun w hw => absurd hw (by simp)⟩,
      ih hrests fun n hn => hgiven n (List.mem_cons_of_mem _ hn)⟩

theorem holds (h : Filled fields pairs) (hnodup : (fields.map Prod.fst).Nodup) :
    (record fields).Holds (Json.ofPairs pairs) := by
  refine holds_ofPairs.mpr ⟨fun p hp => ?_, h.holdFields hnodup fun _ _ => rfl⟩
  exact h.keys_subset (List.mem_map_of_mem hp)

end Filled

mutual

theorem holds_empty : ∀ {s : Shape}, s.isPlain → s.Holds (empty s)
  | anything, h | time, h => by cases h
  | text, _ => holds_text
  | exactly _, _ => holds_exactly
  | flag, _ => holds_flag
  | int32, _ => holds_int32.mpr (by omega)
  | int64, _ | bytes, _ | intOrText, _ => (holds_scalar rfl).mpr rfl
  | list _, _ => by simp [empty]
  | table _, _ => by
    rw [Holds]
    exact ⟨[], rfl, List.Pairwise.nil, by simp⟩
  | record fields, h => by
    rw [isPlain, Bool.and_eq_true] at h
    exact (filled_emptyFields h.2).holds (of_decide_eq_true h.1)

theorem filled_emptyFields : ∀ {fields : List Field}, arePlain fields →
    Filled fields (empty.emptyFields fields)
  | [], _ => .nil
  | (name, always, shape) :: fields, h => by
    rw [arePlain, Bool.and_eq_true] at h
    rw [empty.emptyFields]
    cases always with
    | true => exact .give (holds_empty h.1) (filled_emptyFields h.2)
    | false => exact .skip (filled_emptyFields h.2)

end

theorem forall_mem_of_mapM {α β : Type} {f : α → Option β} {P : β → Prop} {xs : List α}
    {ys : List β} (h : xs.mapM f = some ys) (hP : ∀ x ∈ xs, ∀ y ∈ f x, P y) : ∀ y ∈ ys, P y := by
  induction xs generalizing ys with
  | nil =>
    cases h
    simp
  | cons x xs ih =>
    rw [List.mapM_cons] at h
    obtain ⟨y, hy, h⟩ := Option.bind_eq_some_iff.mp h
    obtain ⟨ys', hys, h⟩ := Option.bind_eq_some_iff.mp h
    cases h
    exact List.forall_mem_cons.mpr ⟨hP x List.mem_cons_self y hy,
      ih hys fun x' hx' => hP x' (List.mem_cons_of_mem _ hx')⟩

theorem ofJson_of_accepted {α : Type} {read : Document.Reader α} {d : Document} {v : Json}
    (hlist : ∀ ds, read (.list ds) = none) (hrecord : ∀ members, read (.record members) = none)
    (h : accepted read d = some v) : Document.ofJson v = d := by
  obtain ⟨_, hread, hv⟩ := Option.bind_eq_some_iff.mp h
  cases d with
  | list ds =>
    rw [hlist] at hread
    cases hread
  | record members =>
    rw [hrecord] at hread
    cases hread
  | unusable => cases hv
  | _ =>
    cases hv
    rfl

mutual

/-- **What a plain form brings a document into** has the form. -/
theorem holds_of_fit? : ∀ {s : Shape} {d : Document} {v : Json}, s.isPlain → s.fit? d = some v →
    s.Holds v
  | anything, _, _, hs, _ | time, _, _, hs, _ => by cases hs
  | list items, d, v, hs, h => by
    cases d with
    | list ds =>
      rw [fit?] at h
      obtain ⟨xs, hxs, rfl⟩ := Option.map_eq_some_iff.mp h
      rw [holds_list]
      exact forall_mem_of_mapM hxs fun d _ v hv => holds_of_fit? hs hv
    | _ => cases h
  | table values, d, v, hs, h => by
    cases d with
    | record members =>
      rw [fit?] at h
      obtain ⟨ps, hps, rfl⟩ := Option.map_eq_some_iff.mp h
      rw [Holds]
      refine ⟨_, rfl, Table.sorted_ofPairs _, fun p hp => ?_⟩
      have hread : ∀ m ∈ members, ∀ q ∈ (fit? values m.2).map fun v => (m.1, v),
          values.Holds q.2 := by
        intro m _ q hq
        obtain ⟨v, hv, rfl⟩ := Option.map_eq_some_iff.mp hq
        exact holds_of_fit? hs hv
      exact forall_mem_of_mapM hps hread p (Table.mem_of_mem_ofPairs hp)
    | _ => cases h
  | record fields, d, v, hs, h => by
    cases d with
    | record members =>
      rw [isPlain, Bool.and_eq_true] at hs
      rw [fit?] at h
      obtain ⟨ps, hps, rfl⟩ := Option.map_eq_some_iff.mp h
      exact (filled_of_fitFields? hs.2 hps).holds (of_decide_eq_true hs.1)
    | _ => cases h
  | text, d, v, _, h | flag, d, v, _, h | int32, d, v, _, h | int64, d, v, _, h => by
    rw [fit?] at h
    rw [← ofJson_of_accepted (fun _ => rfl) (fun _ => rfl) h] at h
    exact (holds_scalar rfl).mpr h
  | intOrText, d, v, _, h => by
    rw [holds_scalar rfl]
    cases d with
    | text s =>
      cases h
      rfl
    | _ =>
      have hint : accepted Document.int32? _ = some v := h
      rw [ofJson_of_accepted (fun _ => rfl) (fun _ => rfl) hint]
      exact h
  | exactly s, d, v, _, h => by
    cases d with
    | text t =>
      rw [fit?] at h
      split at h
      · rename_i heq
        cases h
        rw [heq]
        exact holds_exactly
      · cases h
    | _ => cases h
  | bytes, d, v, _, h => by
    rw [holds_scalar rfl]
    cases d with
    | text s =>
      obtain ⟨_, -, hv⟩ := Option.map_eq_some_iff.mp h
      rw [← hv]
      rw [← hv] at h
      exact h
    | null =>
      cases h
      rfl
    | _ => cases h

theorem filled_of_fitFields? : ∀ {fields : List Field} {members : List (String × Document)}
    {pairs : List (String × Json)}, arePlain fields → fitFields? fields members = some pairs →
    Filled fields pairs
  | [], _, _, _, h => by
    rw [fitFields?] at h
    cases h
    exact .nil
  | (name, always, shape) :: fields, members, pairs, hs, h => by
    rw [arePlain, Bool.and_eq_true] at hs
    rw [fitFields?] at h
    obtain ⟨given, hgiven, h⟩ := Option.bind_eq_some_iff.mp h
    obtain ⟨rest, hrest, h⟩ := Option.bind_eq_some_iff.mp h
    have hread : ∀ m ∈ members.filter (·.1 == name),
        ∀ o ∈ if m.2.isNull && shape.mayBeNull then some none else (fit? shape m.2).map some,
          ∀ v ∈ o, shape.Holds v := by
      intro m _ o ho v hv
      split at ho
      · cases ho
        cases hv
      · obtain ⟨w, hw, rfl⟩ := Option.map_eq_some_iff.mp ho
        cases hv
        exact holds_of_fit? hs.1 hw
    have hfit : ∀ v ∈ given.getLast?.join, shape.Holds v := by
      intro v hv
      exact forall_mem_of_mapM hgiven hread (some v)
        (List.mem_of_getLast? (Option.join_eq_some_iff.mp hv)) v rfl
    have hfilled := filled_of_fitFields? hs.2 hrest
    rcases hlast : given.getLast?.join with _ | v <;> rw [hlast] at h hfit <;> cases h
    · cases always with
      | true => exact .give (holds_empty hs.1) hfilled
      | false => exact .skip hfilled
    · exact .give (hfit v rfl) hfilled

end

end Shape

end RaftMysql
