import Mathlib.Data.List.Nodup
import RaftMysql.Proofs.Cluster.Stored

/-!
# Records with parts that may be left out

A document shows a value if it has what the value has, with the members of objects in any order
(`Document.Shows`). A `Layout` lists the members of a record, each with its name, what a value must be to
tell it, and how it is taken out of the record and put into it. A value tells a record (`Layout.Tells`) if
each member of the record is told under its name, or has its default and is left out. What tells a record
with one of its parts left out, a member or a part of a member, tells the record with the default in place
of that part (`Layout.kept`). A reader finds each member in every document of what tells a record
(`Layout.Tells.found`), and what is written for a record tells it (`Layout.tells_ofPairs`).
-/

namespace RaftMysql

/-! ### Documents of a value -/

namespace Document

/-- The document is the value, with the members of its objects in any order. -/
inductive Shows : Document → Json → Prop
  | written (v : Json) : Shows (ofJson v) v
  | reordered {members : List (String × Document)} {t : Table Json} (hnodup : (members.map Prod.fst).Nodup)
      (hmembers : ∀ name, Option.Rel Shows (members.lookup name) (t.get? name)) :
      Shows (.record members) (.object t)

theorem Shows.text {d : Document} {s : String} (h : d.Shows (.text s)) : d = .text s := by
  cases h
  rfl

theorem Shows.int {d : Document} {n : Int} (h : d.Shows (.int n)) : d = .int n := by
  cases h
  rfl

theorem length_filter_of_nodup {members : List (String × Document)} (h : (members.map Prod.fst).Nodup)
    (name : String) : (members.filter (·.1 == name)).length ≤ 1 := by
  have hcount := List.nodup_iff_count_le_one.mp h name
  rwa [List.count, List.countP_map, List.countP_eq_length_filter] at hcount

theorem Shows.fields? {d : Document} {t : Table Json} (h : d.Shows (.object t)) (ht : t.Ordered)
    (names : List String) : ∃ given, Document.fields? names d = some given ∧
      ∀ name, Option.Rel Shows (given name) (t.get? name) := by
  cases h with
  | written =>
    refine ⟨_, fields?_object names ht, fun name => ?_⟩
    cases t.get? name with
    | none => exact .none
    | some w => exact .some (.written w)
  | reordered hnodup hmembers =>
    refine ⟨_, ?_, hmembers⟩
    rw [Document.fields?, if_pos]
    exact List.all_eq_true.mpr fun name _ => by simpa using length_filter_of_nodup hnodup name

/-- Whatever a value tells is read from every document of the value. -/
def Reads {α : Type} (read : Reader α) (Tells : Json → α → Prop) : Prop :=
  ∀ {v : Json} {a : α} {d : Document}, Tells v a → d.Shows v → read d = some a

end Document

/-! ### Values without a part -/

namespace Json

theorem eraseAt_cons_cons {v : Json} {key key' : String} {path : List String} :
    v.eraseAt (key :: key' :: path) = match v.member? key with
      | some inner => v.setMember key (inner.eraseAt (key' :: path))
      | none => v := rfl

theorem plain_object {depth : ℕ} {members : List (String × Json)} :
    (object members).Plain depth ↔ ∃ d, depth = d + 1 ∧ ∀ p ∈ members, Plain d p.2 := by
  cases depth with
  | zero => simp [Plain]
  | succ d => simp [Plain, plainMembers_iff]

theorem Plain.eraseMember {depth : ℕ} {v : Json} (h : v.Plain depth) (key : String) :
    (v.eraseMember key).Plain depth := by
  cases v with
  | object members =>
    obtain ⟨d, rfl, hmembers⟩ := plain_object.mp h
    exact plain_object.mpr ⟨d, rfl, fun p hp => hmembers p (Table.erase_sublist.subset hp)⟩
  | _ => exact h

theorem Plain.eraseAt {depth : ℕ} {v : Json} (h : v.Plain depth) (path : List String) :
    (v.eraseAt path).Plain depth := by
  induction path generalizing depth v with
  | nil => exact h
  | cons key path ih =>
    cases path with
    | nil => exact h.eraseMember key
    | cons key' path =>
      rw [eraseAt_cons_cons]
      cases hinner : v.member? key with
      | none => exact h
      | some inner =>
        cases v with
        | object members =>
          obtain ⟨d, rfl, hmembers⟩ := plain_object.mp h
          refine plain_object.mpr ⟨d, rfl, fun p hp => ?_⟩
          rcases Table.mem_of_mem_insert hp with rfl | hp
          · exact ih (hmembers (key, inner) (Table.mem_of_get? hinner))
          · exact hmembers p hp
        | _ => cases hinner

end Json

/-! ### Parts -/

/-- A part of a record that may be left out of what tells the record: where it stands, and the record with
the default in its place. -/
structure Part (σ : Type) where
  path : List String
  reset : σ → σ

/-- A part may be left out of whatever tells a record, of which the default is `base`. -/
structure Part.Kept {σ : Type} (p : Part σ) (Tells : Json → σ → Prop) (base : σ) : Prop where
  ne_nil : p.path ≠ []
  reset_base : p.reset base = base
  tells : ∀ v s, Tells v s → Tells (v.eraseAt p.path) (p.reset s)

theorem Json.Plain.foldl_eraseAt {σ : Type} {depth : ℕ} {v : Json} (h : v.Plain depth) (ps : List (Part σ)) :
    (ps.foldl (fun v p => v.eraseAt p.path) v).Plain depth := by
  induction ps generalizing v with
  | nil => exact h
  | cons p ps ih => exact ih (h.eraseAt p.path)

/-! ### Layouts -/

/-- A member of a record. -/
structure Entry (σ : Type) where
  name : String
  Value : Type
  /-- What a value must be to tell the member. -/
  Tells : Json → Value → Prop
  toJson : Value → Json
  value : σ → Value
  put : Value → σ → σ
  /-- The parts of the member that may be left out of what tells it. -/
  inner : List (Part Value)

section

variable {σ α : Type}

namespace Entry

/-- A member that is read as a whole. -/
def whole (name : String) (read : Document.Reader α) (toJson : α → Json) (value : σ → α)
    (put : α → σ → σ) : Entry σ where
  name := name
  Value := α
  Tells v a := ∀ d, Document.Shows d v → read d = some a
  toJson := toJson
  value := value
  put := put
  inner := []

/-- What is found under the name of a member is nothing, if it has its default, or tells the member. -/
def Stands (e : Entry σ) (base s : σ) : Option Json → Prop
  | none => e.value s = e.value base
  | some w => e.Tells w (e.value s)

/-- A member and its parts, all of which may be left out. -/
def parts (e : Entry σ) (base : σ) : List (Part σ) :=
  ⟨[e.name], e.put (e.value base)⟩ ::
    e.inner.map fun p => ⟨e.name :: p.path, fun s => e.put (p.reset (e.value s)) s⟩

end Entry

/-- The members of a record and its default, with no name twice. Members are independent of each other. -/
structure Layout (σ : Type) where
  base : σ
  entries : List (Entry σ)
  nodup : (entries.map Entry.name).Nodup := by simp [Entry.whole]
  value_put : ∀ e ∈ entries, ∀ a s, e.value (e.put a s) = a := by simp [Entry.whole]
  put_value : ∀ e ∈ entries, ∀ s, e.put (e.value s) s = s := by simp [Entry.whole]
  value_put_of_ne : ∀ e ∈ entries, ∀ e' ∈ entries, e.name ≠ e'.name →
    ∀ a s, e'.value (e.put a s) = e'.value s := by simp [Entry.whole]
  inner_kept : ∀ e ∈ entries, ∀ p ∈ e.inner, p.Kept e.Tells (e.value base) := by simp [Entry.whole]

namespace Layout

variable {l : Layout σ} {v : Json} {s : σ} {e : Entry σ}

/-- The parts of a record that may be left out: its members and the parts of these. -/
def parts (l : Layout σ) : List (Part σ) := l.entries.flatMap fun e => e.parts l.base

/-- The value is an object that tells each member of the record. -/
def Tells (l : Layout σ) (v : Json) (s : σ) : Prop :=
  ∃ t : Table Json, t.Ordered ∧ v = .object t ∧ ∀ e ∈ l.entries, e.Stands l.base s (t.get? e.name)

/-- A member that is itself a record. -/
def entry (l : Layout α) (name : String) (toJson : α → Json) (value : σ → α) (put : α → σ → σ) :
    Entry σ where
  name := name
  Value := α
  Tells := l.Tells
  toJson := toJson
  value := value
  put := put
  inner := l.parts

/-- A member that is told anew, with nothing else changed. -/
theorem tells_put {t t' : Table Json} {a : e.Value} (he : e ∈ l.entries)
    (h : ∀ e ∈ l.entries, e.Stands l.base s (t.get? e.name)) (hordered : t'.Ordered)
    (hother : ∀ name, e.name ≠ name → t'.get? name = t.get? name)
    (hself : e.Stands l.base (e.put a s) (t'.get? e.name)) : l.Tells (.object t') (e.put a s) := by
  refine ⟨t', hordered, rfl, fun e' he' => ?_⟩
  by_cases hname : e.name = e'.name
  · obtain rfl := List.inj_on_of_nodup_map l.nodup he he' hname
    exact hself
  · have hstands := h e' he'
    rw [hother _ hname]
    unfold Entry.Stands at *
    rwa [l.value_put_of_ne e he e' he' hname]

theorem tells_eraseMember (he : e ∈ l.entries) (h : l.Tells v s) :
    l.Tells (v.eraseMember e.name) (e.put (e.value l.base) s) := by
  obtain ⟨t, hordered, rfl, hstands⟩ := h
  refine tells_put he hstands hordered.erase (fun _ hname => Table.get?_erase_of_ne hname) ?_
  rw [Table.get?_erase_self hordered]
  exact l.value_put e he _ s

theorem tells_eraseAt {p : Part e.Value} (he : e ∈ l.entries) (hp : p.Kept e.Tells (e.value l.base))
    (h : l.Tells v s) : l.Tells (v.eraseAt (e.name :: p.path)) (e.put (p.reset (e.value s)) s) := by
  obtain ⟨t, hordered, rfl, hstands⟩ := h
  have hself := hstands e he
  obtain ⟨key, path, hpath⟩ := List.exists_cons_of_ne_nil hp.ne_nil
  rw [hpath, Json.eraseAt_cons_cons, ← hpath]
  cases hfound : (Json.object t).member? e.name with
  | none =>
    -- The member was left out as a whole, and has its default already.
    have hvalue : e.value s = e.value l.base := by
      rw [show t.get? e.name = none from hfound] at hself
      exact hself
    rw [hvalue, hp.reset_base, ← hvalue, l.put_value e he]
    exact ⟨t, hordered, rfl, hstands⟩
  | some w =>
    rw [show t.get? e.name = some w from hfound] at hself
    refine tells_put he hstands (Table.sorted_insert hordered _ _) ?_ ?_
    · intro name hname
      exact (Table.get?_insert t _ _ name).trans (if_neg hname)
    · rw [show Json.asObject? (.object t) = some t from rfl, Option.getD_some, Table.get?_insert,
        if_pos rfl, Entry.Stands, l.value_put e he]
      exact hp.tells w _ hself

/-- **A part is left out** of what tells a record, and what is left tells the record with the default in its
place. -/
theorem kept (l : Layout σ) : ∀ p ∈ l.parts, p.Kept l.Tells l.base := by
  intro p hp
  obtain ⟨e, he, hp⟩ := List.mem_flatMap.mp hp
  rcases List.mem_cons.mp hp with rfl | hp
  · exact ⟨by simp, l.put_value e he _, fun v s h => tells_eraseMember he h⟩
  · obtain ⟨q, hq, rfl⟩ := List.mem_map.mp hp
    have hkept := l.inner_kept e he q hq
    refine ⟨by simp, ?_, fun v s h => tells_eraseAt he hkept h⟩
    show e.put (q.reset (e.value l.base)) l.base = l.base
    rw [hkept.reset_base, l.put_value e he]

theorem tells_foldl_eraseAt {ps : List (Part σ)} (hps : ∀ p ∈ ps, p ∈ l.parts) (h : l.Tells v s) :
    l.Tells (ps.foldl (fun v p => v.eraseAt p.path) v) (ps.foldl (fun s p => p.reset s) s) := by
  induction ps generalizing v s with
  | nil => exact h
  | cons p ps ih =>
    obtain ⟨hp, hps⟩ := List.forall_mem_cons.mp hps
    exact ih hps ((l.kept p hp).tells v s h)

/-- The members of the record are found among what is given, or have their defaults. -/
def Found (l : Layout σ) (given : String → Option Document) (s : σ) : Prop :=
  ∀ e ∈ l.entries, ∀ read, Document.Reads read e.Tells →
    Document.field given e.name read (e.value l.base) = some (e.value s)

/-- **A reader finds** each member in what tells a record. -/
theorem Tells.found {d : Document} (h : l.Tells v s) (hd : d.Shows v) (names : List String) :
    ∃ given, Document.fields? names d = some given ∧ l.Found given s := by
  obtain ⟨t, hordered, rfl, hstands⟩ := h
  obtain ⟨given, hgiven, hshows⟩ := hd.fields? hordered names
  refine ⟨given, hgiven, fun e he read hread => ?_⟩
  have hstands := hstands e he
  have hshows := hshows e.name
  rw [Document.field]
  generalize given e.name = found at hshows
  generalize t.get? e.name = told at hshows hstands
  cases hshows with
  | none => exact congrArg some (Eq.symm hstands)
  | some hshows => exact hread hstands hshows

section

variable {given : String → Option Document} {name : String} {read : Document.Reader α} {toJson : α → Json}
  {value : σ → α} {put : α → σ → σ}

theorem Found.whole (h : l.Found given s) (i : ℕ)
    (hi : l.entries[i]? = some (.whole name read toJson value put)) :
    Document.field given name read (value l.base) = some (value s) :=
  h _ (List.mem_of_getElem? hi) read fun hv hd => hv _ hd

theorem Found.entry {l' : Layout α} (h : l.Found given s) (i : ℕ)
    (hi : l.entries[i]? = some (l'.entry name toJson value put))
    (hread : Document.Reads read l'.Tells) :
    Document.field given name read (value l.base) = some (value s) :=
  h _ (List.mem_of_getElem? hi) read hread

end

/-- **What is written** for a record tells it, if what is written for each member does. -/
theorem tells_ofPairs (h : ∀ e ∈ l.entries, e.Tells (e.toJson (e.value s)) (e.value s)) :
    l.Tells (.ofPairs (l.entries.map fun e => (e.name, e.toJson (e.value s)))) s := by
  refine ⟨_, Table.sorted_ofPairs _, rfl, fun e he => ?_⟩
  have hnodup : ((l.entries.map fun e => (e.name, some (e.toJson (e.value s)))).map Prod.fst).Nodup := by
    rw [List.map_map]
    exact l.nodup
  have hfound := Json.member?_ofMembers_of_mem hnodup (List.mem_map_of_mem he)
  have hpairs := Json.ofPairs_eq_ofMembers (l.entries.map fun e => (e.name, e.toJson (e.value s)))
  rw [List.map_map] at hpairs
  have hget : Table.get? (Table.ofPairs (l.entries.map fun e => (e.name, e.toJson (e.value s)))) e.name =
      some (e.toJson (e.value s)) :=
    (congrArg (Json.member? e.name) hpairs).trans hfound
  rw [hget]
  exact h e he

end Layout

end

end RaftMysql
