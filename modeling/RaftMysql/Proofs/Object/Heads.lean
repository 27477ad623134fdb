import RaftMysql.Object.Manifest
import RaftMysql.Proofs.Object.Shapes

/-!
# Heads of objects, read and written again

What an object says about itself is taken apart when it is read: its texts, its labels and its owners
have fields of their own, and the rest is kept as it is. Written again, all of it is what it was
(`Metadata.member?_toJson_ofJson`), but for the moment of a deletion, which may be written in another
way.
-/

namespace RaftMysql

section

variable {α : Type} {given : Option Json} {read : Json → Option α} {write : α → Json}

theorem map_bind_of_written (h : ∀ v ∈ given, ∃ a, read v = some a ∧ write a = v) :
    (given.bind read).map write = given := by
  cases given with
  | none => rfl
  | some v =>
    obtain ⟨a, hread, hwrite⟩ := h v rfl
    rw [Option.bind_some, hread, Option.map_some, hwrite]

theorem text_written (h : ∀ v ∈ given, Shape.text.Holds v) :
    (given.bind Json.asText?).map .text = given := by
  refine map_bind_of_written fun v hv => ?_
  obtain ⟨s, rfl⟩ := Shape.exists_text_of_holds (h v hv)
  exact ⟨s, rfl, rfl⟩

theorem flag_written (h : ∀ v ∈ given, Shape.flag.Holds v) :
    (given.bind Json.asFlag?).map .flag = given := by
  refine map_bind_of_written fun v hv => ?_
  obtain ⟨b, rfl⟩ := Shape.exists_flag_of_holds (h v hv)
  exact ⟨b, rfl, rfl⟩

theorem int_written (h : ∀ v ∈ given, Shape.int64.Holds v) :
    (given.bind Json.asInt?).map .int = given := by
  refine map_bind_of_written fun v hv => ?_
  obtain ⟨n, rfl⟩ := Shape.exists_int_of_holds (h v hv)
  exact ⟨n, rfl, rfl⟩

end

theorem ofTexts_asTexts {v : Json} (h : (Shape.table .text).Holds v) :
    Json.ofTexts (Json.asTexts v) = v := by
  rw [Shape.Holds] at h
  obtain ⟨t, rfl, -, h⟩ := h
  unfold Json.ofTexts Json.asTexts
  congr 1
  induction t with
  | nil => rfl
  | cons p t ih =>
    obtain ⟨key, w⟩ := p
    obtain ⟨s, rfl⟩ := Shape.exists_text_of_holds (h (key, w) List.mem_cons_self)
    have hrest := ih fun q hq => h q (List.mem_cons_of_mem _ hq)
    simp only [Json.asObject?, Option.getD_some, List.filterMap_cons, Json.asText?,
      Option.map_some, List.map_cons] at hrest ⊢
    rw [hrest]

theorem labels_written {given : Option Json} (h : ∀ v ∈ given, (Shape.table .text).Holds v) :
    (given.map Json.asTexts).map .ofTexts = given := by
  cases given with
  | none => rfl
  | some v => exact congrArg some (ofTexts_asTexts (h v rfl))

open Shape in
/-- **An owner** is written as it was read. -/
theorem Owner.toJson_ofJson {v : Json} (h : Shape.owner.Holds v) : (Owner.ofJson v).toJson = v := by
  have htext : ∀ key ∈ ["apiVersion", "kind", "name", "uid"],
      some (.text (((v.member? key).bind Json.asText?).getD "")) = v.member? key := by
    intro key hkey
    obtain ⟨hgiven, htexts⟩ := field_of_holds key true text h
      (List.mem_append_left _ (List.mem_map.mpr ⟨key, hkey, rfl⟩))
    obtain ⟨w, hw⟩ := Option.isSome_iff_exists.mp (hgiven rfl)
    obtain ⟨s, rfl⟩ := exists_text_of_holds (htexts w hw)
    rw [hw]
    rfl
  have hflag : ∀ key ∈ ["blockOwnerDeletion", "controller"],
      ((v.member? key).bind Json.asFlag?).map .flag = v.member? key := fun key hkey =>
    flag_written (field_of_holds key false flag h
      (List.mem_append_right _ (List.mem_map.mpr ⟨key, hkey, rfl⟩))).2
  refine ofMembers_of_holds h (by simp) (by simp [reqs, opts, req, opt]) ?_
  simp only [List.forall_mem_cons, Owner.ofJson]
  exact ⟨htext _ (by simp), htext _ (by simp), htext _ (by simp), htext _ (by simp),
    hflag _ (by simp), hflag _ (by simp), by simp⟩

theorem owners_written {given : Option Json} (h : ∀ v ∈ given, (Shape.list .owner).Holds v) :
    ((given.bind Json.asList?).map (·.map Owner.ofJson)).map
      (fun os => .list (os.map Owner.toJson)) = given := by
  rw [Option.map_map]
  refine map_bind_of_written fun v hv => ?_
  have hv := h v hv
  rw [Shape.Holds] at hv
  obtain ⟨xs, rfl, hxs⟩ := hv
  have hsame : (xs.map Owner.ofJson).map Owner.toJson = xs := by
    rw [List.map_map]
    exact (List.map_congr_left fun x hx => Owner.toJson_ofJson (hxs x hx)).trans (List.map_id xs)
  exact ⟨xs, rfl, congrArg Json.list hsame⟩

namespace Metadata

variable {v : Json} {key : String}

theorem member?_rest (h : Shape.metadata.Holds v) :
    (Json.ofMembers ((ofJson v).rest.map fun p => (p.1, some p.2))).member? key =
      if ownMembers.contains key then none else v.member? key := by
  rw [Shape.metadata, Shape.Holds] at h
  obtain ⟨t, rfl, hord, -⟩ := h
  have hfiltered : Table.Ordered (t.filter fun p => !ownMembers.contains p.1) := hord.filter _
  rw [← Json.ofPairs_eq_ofMembers]
  change (Table.ofPairs (t.filter fun p => !ownMembers.contains p.1)).get? key = _
  rw [Table.ofPairs_of_ordered hfiltered,
    Table.get?_filter (p := fun key => !ownMembers.contains key)]
  cases ownMembers.contains key <;> rfl

open Shape in
/-- **What an object says about itself** is written as it was read, but for the moment of its
deletion. -/
theorem member?_toJson_ofJson (h : Shape.metadata.Holds v) (hkey : key ≠ "deletionTimestamp") :
    (ofJson v).toJson.member? key = v.member? key := by
  have htext : ∀ key ∈ ["generateName", "name", "namespace", "resourceVersion", "selfLink", "uid"],
      ((v.member? key).bind Json.asText?).map .text = v.member? key := by
    intro key hkey
    refine text_written (field_of_holds key false text h ?_).2
    simp only [opts, List.mem_append]
    exact .inl (.inl (.inl (.inl (List.mem_map.mpr ⟨key, hkey, rfl⟩))))
  have hgeneration := int_written
    (field_of_holds "generation" false int64 h (by simp [opts, opt])).2
  have hlabels := labels_written
    (field_of_holds "labels" false (table text) h (by simp [opts, opt])).2
  have howners := owners_written
    (field_of_holds "ownerReferences" false (list owner) h (by simp [opts, opt])).2
  rw [toJson, Json.member?_ofMembers_append, member?_rest h]
  by_cases hown : key ∈ ownMembers
  · rw [if_pos (List.contains_iff_mem.mpr hown), Option.or_none]
    refine Json.member?_ofMembers_eq (by simp) hown ?_
    simp only [List.forall_mem_cons]
    refine ⟨?name, ?generateName, ?space, ?uid, ?version, ?generation, ?deletedAt, ?labels, ?owners,
      by simp⟩
    case deletedAt => exact fun h => absurd h hkey
    case generation => exact fun h => h ▸ hgeneration
    case labels => exact fun h => h ▸ hlabels
    case owners => exact fun h => h ▸ howners
    all_goals exact fun h => h ▸ htext _ (by simp)
  · rw [if_neg (by simpa using hown), Json.member?_ofMembers_eq_none hown, Option.none_or]

end Metadata

end RaftMysql
