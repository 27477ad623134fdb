import RaftMysql.Object.Manifest
import RaftMysql.Proofs.Json.InPlace

/-!
# What laying one value over another comes to

`Json.Stands live desired` says that what the desired value sets is so in the live one, as values are
compared: unlike `Json.InPlace`, it takes the two zeros of doubles for one. An overlay has the desired
value standing in it (`Json.stands_overlay`), and it is the same as the live value just where the desired
one stood there before (`Json.same_overlay_iff`). Whatever the two values have at one place meets in the
overlay there (`Json.under?_overlay`), so what the desired value does not mention is kept
(`Json.under?_overlay_of_unmentioned`). `Json.overlay_places` puts all this together.
-/

namespace RaftMysql.Json

/-! ### Induction over values -/

/-- The value is there and has no parts. -/
def IsScalar : Json → Prop
  | .flag _ | .int _ | .double _ | .text _ => True
  | .null | .list _ | .object _ => False

/-- What holds of a value if it holds of its parts, holds of every value. -/
@[elab_as_elim] theorem induct {P : Json → Prop} (null : P .null)
    (scalar : ∀ v : Json, v.IsScalar → P v)
    (list : ∀ items, (∀ item ∈ items, P item) → P (.list items))
    (object : ∀ members : Table Json, (∀ p ∈ members, P p.2) → P (.object members)) (v : Json) : P v :=
  @Json.rec P (fun items => ∀ item ∈ items, P item) (fun members => ∀ p ∈ members, P p.2)
    (fun p => P p.2) null (fun _ => scalar _ trivial) (fun _ => scalar _ trivial)
    (fun _ => scalar _ trivial) (fun _ => scalar _ trivial) list object (by simp)
    (fun _ _ hitem hitems => List.forall_mem_cons.mpr ⟨hitem, hitems⟩) (by simp)
    (fun _ _ hvalue hvalues => List.forall_mem_cons.mpr ⟨hvalue, hvalues⟩) (fun _ _ hvalue => hvalue) v

theorem overlay_of_isScalar {live desired : Json} (h : desired.IsScalar) :
    live.overlay desired = desired := by
  cases desired <;> first | rfl | cases h

/-! ### Values that are the same -/

theorem itemsAreReal_iff {items : List Json} : ItemsAreReal items ↔ ∀ item ∈ items, item.IsReal := by
  induction items with
  | nil => simp [ItemsAreReal]
  | cons item items ih => rw [ItemsAreReal, ih, List.forall_mem_cons]

theorem membersAreReal_iff {members : List (String × Json)} :
    MembersAreReal members ↔ ∀ p ∈ members, p.2.IsReal := by
  induction members with
  | nil => simp [MembersAreReal]
  | cons p members ih => rw [MembersAreReal, ih, List.forall_mem_cons]

theorem same_list {xs ys : List Json} :
    (list xs).same (list ys) = true ↔ List.Forall₂ (fun x y => x.same y = true) xs ys := by
  rw [same]
  induction xs generalizing ys with
  | nil => cases ys <;> simp [sameItems]
  | cons x xs ih => cases ys <;> simp [sameItems, ih]

theorem same_object_iff_forall₂ {as bs : Table Json} :
    (object as).same (object bs) = true ↔
      List.Forall₂ (fun p q => p.1 = q.1 ∧ p.2.same q.2 = true) as bs := by
  rw [same]
  induction as generalizing bs with
  | nil => cases bs <;> simp [sameMembers]
  | cons p as ih => cases bs <;> simp [sameMembers, ih]

theorem rel_get?_of_same {as bs : Table Json} (h : (object as).same (object bs) = true)
    (key : String) :
    Option.Rel (fun a b => a.same b = true) (Table.get? as key) (Table.get? bs key) := by
  induction same_object_iff_forall₂.mp h with
  | nil => exact .none
  | @cons p q as bs hpq hrest ih =>
    rw [Table.get?, Table.get?, hpq.1]
    split
    · exact .some hpq.2
    · exact ih (same_object_iff_forall₂.mpr hrest)

/-- **Objects in order** are the same when they have the same under each key. -/
theorem same_object {as bs : Table Json} (ha : as.Ordered) (hb : bs.Ordered) :
    (object as).same (object bs) = true ↔
      ∀ key, Option.Rel (fun a b => a.same b = true) (as.get? key) (bs.get? key) := by
  refine ⟨fun h key => rel_get?_of_same h key, fun h => same_object_iff_forall₂.mpr ?_⟩
  induction as generalizing bs with
  | nil =>
    rcases bs with _ | ⟨⟨k, b⟩, bs⟩
    · exact .nil
    · have hfirst := h k
      rw [Table.get?, Table.get?, if_pos rfl] at hfirst
      cases hfirst
  | cons p as ih =>
    obtain ⟨k, a⟩ := p
    have hfirst := h k
    rw [Table.get?, if_pos rfl] at hfirst
    rcases bs with _ | ⟨⟨l, b⟩, bs⟩
    · cases hfirst
    · obtain ⟨hheada, htaila⟩ := List.pairwise_cons.mp ha
      obtain ⟨hheadb, htailb⟩ := List.pairwise_cons.mp hb
      -- The least key of the one is that of the other, as each is found in both.
      obtain rfl : k = l := by
        rcases lt_trichotomy k l with hlt | heq | hlt
        · rw [Table.get?_eq_none_of_forall_lt (List.forall_mem_cons.mpr
            ⟨hlt, fun p hp => hlt.trans (hheadb p hp)⟩)] at hfirst
          cases hfirst
        · exact heq
        · have hother := h l
          rw [Table.get?_eq_none_of_forall_lt (List.forall_mem_cons.mpr
            ⟨hlt, fun p hp => hlt.trans (hheada p hp)⟩), Table.get?, if_pos rfl] at hother
          cases hother
      rw [Table.get?, if_pos rfl] at hfirst
      refine .cons ⟨rfl, by simpa using hfirst⟩ (ih htaila htailb fun key => ?_)
      by_cases hkey : k = key
      · subst hkey
        rw [Table.get?_eq_none_of_forall_lt hheada, Table.get?_eq_none_of_forall_lt hheadb]
        exact .none
      · have hrest := h key
        rwa [Table.get?, Table.get?, if_neg hkey, if_neg hkey] at hrest

/-! ### Desired values that stand in place -/

/-- What the desired value sets is so in the live one, as values are compared. A `null` sets nothing, an
object sets its members that are not `null`, and a list sets its elements if there are as many. -/
inductive Stands : Json → Json → Prop
  | null {live : Json} : Stands live .null
  | object {members desired : Table Json}
      (hthere : ∀ key value, Table.get? desired key = some value → value ≠ .null →
        (Table.get? members key).isSome)
      (h : ∀ key value v, Table.get? desired key = some value → value ≠ .null →
        Table.get? members key = some v → Stands v value) :
      Stands (.object members) (.object desired)
  | list {items desired : List Json} (hlength : items.length = desired.length)
      (h : ∀ (i : Nat) (item value : Json), items[i]? = some item → desired[i]? = some value →
        Stands item value) :
      Stands (.list items) (.list desired)
  | same {live desired : Json} (h : live.same desired = true) : Stands live desired

/-- What a desired member sets stands in the live one. -/
def StandsAt (live desired : Option Json) : Prop :=
  ∀ value ∈ desired, value ≠ .null → ∃ v ∈ live, Stands v value

theorem stands_of_isScalar {live desired : Json} (h : desired.IsScalar) :
    Stands live desired ↔ live.same desired = true := by
  refine ⟨fun hstands => ?_, .same⟩
  cases hstands with
  | null | object | list => cases h
  | same hsame => exact hsame

theorem stands_list {live : Json} {desired : List Json} :
    Stands live (.list desired) ↔ ∃ items, live = .list items ∧ List.Forall₂ Stands items desired := by
  constructor
  · intro h
    cases h with
    | @list items _ hlength h =>
      refine ⟨items, rfl, List.forall₂_iff_get.mpr ⟨hlength, fun i hi hi' => ?_⟩⟩
      exact h i _ _ (List.getElem?_eq_getElem hi) (List.getElem?_eq_getElem hi')
    | same h =>
      cases live with
      | list items => exact ⟨items, rfl, (same_list.mp h).imp fun _ _ => .same⟩
      | _ => cases h
  · rintro ⟨items, rfl, h⟩
    refine .list h.length_eq fun i item value hitem hvalue => ?_
    obtain ⟨hi, rfl⟩ := List.getElem?_eq_some_iff.mp hitem
    obtain ⟨hi', rfl⟩ := List.getElem?_eq_some_iff.mp hvalue
    exact h.get hi hi'

/-- **Objects stand in place** member by member. -/
theorem stands_object {live : Json} {desired : Table Json} :
    Stands live (.object desired) ↔ ∃ members, live = .object members ∧
      ∀ key, StandsAt (Table.get? members key) (Table.get? desired key) := by
  constructor
  · intro h
    cases h with
    | @object members _ hthere h =>
      refine ⟨members, rfl, fun key value hvalue hnull => ?_⟩
      obtain ⟨v, hv⟩ := Option.isSome_iff_exists.mp (hthere key value hvalue hnull)
      exact ⟨v, hv, h key value v hvalue hnull hv⟩
    | same h =>
      cases live with
      | object members =>
        refine ⟨members, rfl, fun key value hvalue _ => ?_⟩
        have hrel := rel_get?_of_same h key
        rw [show Table.get? desired key = some value from hvalue] at hrel
        obtain ⟨v, hv⟩ : ∃ v, Table.get? members key = some v :=
          Option.ne_none_iff_exists'.mp fun hnone => by
            rw [hnone] at hrel
            cases hrel
        rw [hv] at hrel
        exact ⟨v, hv, .same (by simpa using hrel)⟩
      | _ => cases h
  · rintro ⟨members, rfl, h⟩
    refine .object (fun key value hvalue hnull => ?_) fun key value v hvalue hnull hv => ?_
    · obtain ⟨v, hv, -⟩ := h key value hvalue hnull
      exact Option.isSome_iff_exists.mpr ⟨v, hv⟩
    · obtain ⟨w, hw, hstands⟩ := h key value hvalue hnull
      obtain rfl := Option.some.inj (hv.symm.trans hw)
      exact hstands

/-! ### Overlays -/

/-- A value that JSON text can stand for: every object has its members in the order of their keys, one
for each, and every double is a number. -/
structure Proper (v : Json) : Prop where
  inOrder : v.InOrder
  isReal : v.IsReal

theorem Proper.of_mem_list {items : List Json} (h : (Json.list items).Proper) :
    ∀ item ∈ items, item.Proper := fun item hitem =>
  ⟨itemsInOrder_iff.mp h.inOrder item hitem, itemsAreReal_iff.mp h.isReal item hitem⟩

theorem Proper.ordered {members : Table Json} (h : (Json.object members).Proper) : members.Ordered :=
  h.inOrder.1

theorem Proper.of_mem_object {members : Table Json} (h : (Json.object members).Proper) :
    ∀ p ∈ members, p.2.Proper := fun p hp =>
  ⟨membersInOrder_iff.mp h.inOrder.2 p hp, membersAreReal_iff.mp h.isReal p hp⟩

theorem Proper.same_self {v : Json} (h : v.Proper) : v.same v = true := same_self_iff.mpr h.isReal

/-- **An overlay** has the desired value standing in it. -/
theorem stands_overlay {live desired : Json} (h : desired.Proper) :
    Stands (live.overlay desired) desired := by
  induction desired using induct generalizing live with
  | null => exact .null
  | scalar desired hscalar =>
    rw [overlay_of_isScalar hscalar]
    exact .same h.same_self
  | list desired ih =>
    cases live with
    | list items =>
      rw [overlay_list]
      split
      · rename_i hlength
        rw [overlayItems_eq_zipWith hlength]
        refine stands_list.mpr ⟨_, rfl, List.forall₂_iff_get.mpr ⟨by simp [hlength], ?_⟩⟩
        intro i hi hi'
        have hmem := List.get_mem desired ⟨i, hi'⟩
        simpa using ih _ hmem (h.of_mem_list _ hmem)
      · exact .same h.same_self
    | _ => exact .same h.same_self
  | object desired ih =>
    cases live with
    | object members =>
      rw [overlay_object]
      refine stands_object.mpr ⟨_, rfl, fun key value hvalue hnull => ?_⟩
      have hmem := Table.mem_of_get? hvalue
      have hproper := h.of_mem_object _ hmem
      rw [get?_overlayMembers h.ordered, show Table.get? desired key = some value from hvalue]
      rcases Table.get? members key with _ | old
      · refine ⟨value, ?_, .same hproper.same_self⟩
        cases value <;> first | rfl | exact absurd rfl hnull
      · exact ⟨_, rfl, ih _ hmem hproper⟩
    | _ => exact .same h.same_self

theorem rel_overlayAt_iff {live desired : Option Json} (hlive : ∀ v ∈ live, v.Proper)
    (h : ∀ v ∈ live, ∀ value ∈ desired, v.same (v.overlay value) = true ↔ Stands v value) :
    Option.Rel (fun a b => a.same b = true) live (overlayAt live desired) ↔ StandsAt live desired := by
  match live, desired with
  | none, none => simp [overlayAt, StandsAt]
  | none, some value => cases value <;> simp [overlayAt, StandsAt, isNull]
  | some v, none => simpa [overlayAt, StandsAt] using (hlive v rfl).same_self
  | some v, some value =>
    have hpart := h v rfl value rfl
    by_cases hnull : value = .null
    · subst hnull
      simpa [overlayAt, StandsAt, Stands.null] using hpart
    · simpa [overlayAt, StandsAt, hnull] using hpart

/-- **An overlay is the same as the live value** just where the desired one stood there before. -/
theorem same_overlay_iff {live desired : Json} (hlive : live.Proper) (h : desired.Proper) :
    live.same (live.overlay desired) = true ↔ Stands live desired := by
  induction desired using induct generalizing live with
  | null => exact ⟨fun _ => .null, fun _ => hlive.same_self⟩
  | scalar desired hscalar => rw [overlay_of_isScalar hscalar, stands_of_isScalar hscalar]
  | list desired ih =>
    cases live with
    | list items =>
      rw [overlay_list]
      split <;> rename_i hlength
      · rw [overlayItems_eq_zipWith hlength, same_list, stands_list]
        simp only [List.forall₂_iff_get, List.length_zipWith, hlength, min_self, true_and,
          List.get_eq_getElem, List.getElem_zipWith]
        have hpart : ∀ (i : ℕ) (hi : i < items.length) (hi' : i < desired.length),
            items[i].same (items[i].overlay desired[i]) = true ↔ Stands items[i] desired[i] :=
          fun i hi hi' => ih _ (List.getElem_mem hi') (hlive.of_mem_list _ (List.getElem_mem hi))
            (h.of_mem_list _ (List.getElem_mem hi'))
        grind
      · have hshort : ∀ R : Json → Json → Prop, ¬ List.Forall₂ R items desired :=
          fun R hall => hlength hall.length_eq
        simp [same_list, stands_list, hshort]
    | _ => simp [overlay, same, stands_list]
  | object desired ih =>
    cases live with
    | object members =>
      rw [overlay_object, same_object hlive.ordered (ordered_overlayMembers hlive.ordered _),
        stands_object]
      simp only [get?_overlayMembers h.ordered, object.injEq, exists_eq_left']
      refine forall_congr' fun key => rel_overlayAt_iff (fun v hv => ?_) fun v hv value hvalue => ?_
      · exact hlive.of_mem_object _ (Table.mem_of_get? hv)
      · have hmem := Table.mem_of_get? hvalue
        exact ih _ hmem (hlive.of_mem_object _ (Table.mem_of_get? hv)) (h.of_mem_object _ hmem)
    | _ => simp [overlay, same, stands_object]

theorem overlay_overlay {live desired : Json} (hlive : live.Proper) (h : desired.Proper) :
    (live.overlay desired).overlay desired = live.overlay desired :=
  overlay_of_inPlace (inOrder_overlay hlive.inOrder h.inOrder) (inPlace_overlay h.inOrder)

/-! ### Places that both values have -/

/-- A step into a value. -/
inductive Step where
  | key (name : String)
  | index (i : Nat)

/-- What one step into a value leads to. -/
def step? (v : Json) : Step → Option Json
  | .key name => v.member? name
  | .index i => v.asList?.bind (·[i]?)

/-- What some steps into a value lead to. -/
def under? (v : Json) : List Step → Option Json
  | [] => some v
  | step :: place => (v.step? step).bind (under? · place)

/-- The steps lead through members that both values have, and through elements of lists of equal length, to
what they have there. -/
inductive Meets : List Step → Json → Json → Json → Json → Prop
  | here {live desired : Json} : Meets [] live desired live desired
  | key {members given : Table Json} {name : String} {place : List Step} {v value old new : Json}
      (hv : Table.get? members name = some v) (hvalue : Table.get? given name = some value)
      (h : Meets place v value old new) :
      Meets (.key name :: place) (.object members) (.object given) old new
  | index {items given : List Json} {i : Nat} {place : List Step} {v value old new : Json}
      (hlength : items.length = given.length) (hv : items[i]? = some v) (hvalue : given[i]? = some value)
      (h : Meets place v value old new) :
      Meets (.index i :: place) (.list items) (.list given) old new

theorem under?_append (v : Json) (place rest : List Step) :
    v.under? (place ++ rest) = (v.under? place).bind (·.under? rest) := by
  induction place generalizing v with
  | nil => rfl
  | cons step place ih =>
    rw [List.cons_append, under?, under?, Option.bind_assoc]
    exact Option.bind_congr fun inner _ => ih inner

variable {place : List Step} {live desired old new : Json}

theorem Meets.proper (h : Meets place live desired old new) (hdesired : desired.Proper) :
    new.Proper := by
  induction h with
  | here => exact hdesired
  | key _ hvalue _ ih => exact ih (hdesired.of_mem_object _ (Table.mem_of_get? hvalue))
  | index _ _ hvalue _ ih => exact ih (hdesired.of_mem_list _ (List.mem_of_getElem? hvalue))

theorem Meets.under? (h : Meets place live desired old new) : live.under? place = some old := by
  induction h with
  | here => rfl
  | key hv _ _ ih => rw [Json.under?, step?, member?, hv, Option.bind_some, ih]
  | index _ hv _ _ ih => rw [Json.under?, step?, asList?, Option.bind_some, hv, Option.bind_some, ih]

/-- **An overlay, place by place:** what the two values have at one is laid over each other there. -/
theorem under?_overlay (h : Meets place live desired old new) (hdesired : desired.Proper) :
    (live.overlay desired).under? place = some (old.overlay new) := by
  induction h with
  | here => rfl
  | key hv hvalue _ ih =>
    rw [Json.under?, step?, member?_overlay hdesired.ordered, hv, hvalue, overlayAt, Option.bind_some]
    exact ih (hdesired.of_mem_object _ (Table.mem_of_get? hvalue))
  | index hlength hv hvalue _ ih =>
    rw [overlay_list, if_pos hlength, overlayItems_eq_zipWith hlength, Json.under?, step?, asList?,
      Option.bind_some, List.getElem?_zipWith, hv, hvalue]
    exact ih (hdesired.of_mem_list _ (List.mem_of_getElem? hvalue))

/-- **What is not mentioned is kept.** -/
theorem under?_overlay_of_unmentioned {members given : Table Json} {key : String}
    (h : Meets place live desired (.object members) (.object given)) (hdesired : desired.Proper)
    (hkey : Table.get? given key = none) :
    (live.overlay desired).under? (place ++ [.key key]) = live.under? (place ++ [.key key]) := by
  rw [under?_append, under?_append, under?_overlay h hdesired, h.under?, Option.bind_some,
    Option.bind_some, Json.under?, Json.under?, step?, step?,
    member?_overlay (h.proper hdesired).ordered, hkey, member?]
  cases Table.get? members key <;> rfl

/-! ### All of it -/

/-- **What laying a desired value over a live one comes to.** The desired value stands in the outcome, which
is the same as the live value just where it stood there before; so objects of a kind are reported as
changed just where it did not. To lay it over once more changes nothing. What an object of the live value
has under a key that the desired one does not mention stays, however deep that object lies under members
that both have and elements of lists of equal length. Nothing and the empty object leave an object as it
is. -/
theorem overlay_places {live desired : Json} (hlive : live.Proper) (hdesired : desired.Proper) :
    Stands (live.overlay desired) desired ∧
    (live.same (live.overlay desired) = true ↔ Stands live desired) ∧
    (∀ (kind : Kind) (a b merged : Manifest) (changed : Bool), a.toJson kind = live →
      b.toJson kind = desired → Manifest.overlay? kind a b = some (merged, changed) →
        (changed = true ↔ ¬ Stands live desired)) ∧
    (live.overlay desired).overlay desired = live.overlay desired ∧
    (∀ place members given key, Meets place live desired (.object members) (.object given) →
      Table.get? given key = none →
        (live.overlay desired).under? (place ++ [.key key]) = live.under? (place ++ [.key key])) ∧
    ∀ members, live = .object members → live.overlay .null = live ∧ live.overlay (.object []) = live := by
  have hsame := same_overlay_iff hlive hdesired
  refine ⟨stands_overlay hdesired, hsame, ?_, overlay_overlay hlive hdesired, ?_, ?_⟩
  · rintro kind a b merged changed rfl rfl h
    obtain ⟨_, -, h⟩ := Option.map_eq_some_iff.mp h
    obtain ⟨-, rfl⟩ := Prod.mk.inj h
    rw [Bool.not_eq_true', ← Bool.not_eq_true, hsame]
  · exact fun place members given key h hkey => under?_overlay_of_unmentioned h hdesired hkey
  · rintro members rfl
    exact ⟨by rw [overlay], by rw [overlay_object, overlayMembers]⟩

/-- A live value with two parts in a list. -/
def liveParts : Json := .object [("parts", .list [.text "init",
  .object [("image", .text "a"), ("limit", .double 0x3fe0000000000000)]]), ("replicas", .int 3)]

/-- A desired value that changes the second of the two parts. -/
def desiredParts : Json := .object [("parts", .list [.null, .object [("image", .text "b")]]),
  ("paused", .object [("since", .null)])]

theorem proper_liveParts : liveParts.Proper where
  inOrder := by
    have hkeys : "parts" < "replicas" ∧ "image" < "limit" := by decide
    simp only [liveParts, InOrder, MembersInOrder, ItemsInOrder, Table.Ordered, List.pairwise_pair,
      and_true, hkeys]
  isReal := same_self_iff.mp (by decide +kernel)

theorem proper_desiredParts : desiredParts.Proper where
  inOrder := by
    have hkeys : "parts" < "paused" := by decide
    simp only [desiredParts, InOrder, MembersInOrder, ItemsInOrder, Table.Ordered, List.pairwise_pair,
      List.pairwise_singleton, and_true, hkeys]
  isReal := same_self_iff.mp (by decide +kernel)

/-- The part that is changed keeps what is not mentioned of it. -/
theorem overlay_places_parts : liveParts.Proper ∧ desiredParts.Proper ∧
    ¬ Stands liveParts desiredParts ∧ Stands (liveParts.overlay desiredParts) desiredParts ∧
    (liveParts.overlay desiredParts).under? [.key "parts", .index 1, .key "limit"] =
      some (.double 0x3fe0000000000000) := by
  obtain ⟨hstands, hsame, -, -, hkept, -⟩ := overlay_places proper_liveParts proper_desiredParts
  refine ⟨proper_liveParts, proper_desiredParts, fun h => ?_, hstands, ?_⟩
  · exact absurd (hsame.mpr h) (by decide +kernel)
  · exact hkept [.key "parts", .index 1] _ _ "limit" (.key rfl rfl (.index rfl rfl rfl .here)) rfl

end RaftMysql.Json
