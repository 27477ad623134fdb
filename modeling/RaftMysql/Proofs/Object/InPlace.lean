import RaftMysql.Proofs.Json.InPlace
import RaftMysql.Proofs.Object.Heads

/-!
# Desired objects that stand in place

A desired object laid over a live one is in place in the object that comes of it
(`Manifest.inPlace_of_overlay?`), also after that was read: of its head only the moment of a deletion may be
written in another way. Where a desired object is in place already, laying it over the live one reports
no change (`Manifest.overlay?_of_inPlace`).
-/

namespace RaftMysql

open Json

theorem Metadata.inPlace_toJson {v desired : Json} (h : Shape.metadata.Holds v)
    (hdesired : desired.InOrder) (hkept : desired.member? "deletionTimestamp" = none)
    (hplace : v.InPlace desired) : (ofJson v).toJson.InPlace desired := by
  obtain ⟨members, rfl⟩ := Shape.exists_object_of_holds h
  cases desired with
  | null => trivial
  | object desired =>
    rw [InOrder] at hdesired
    refine (inPlace_object hdesired.1).mpr fun key => ?_
    by_cases hkey : key = "deletionTimestamp"
    · subst hkey
      intro value hvalue
      rw [show Table.get? desired "deletionTimestamp" = none from hkept] at hvalue
      cases hvalue
    · have hget := member?_toJson_ofJson h hkey
      change InPlaceAt ((ofJson (.object members)).toJson.member? key) (Table.get? desired key)
      rw [hget]
      exact (inPlace_object hdesired.1).mp hplace key
  | list _ =>
    rw [InPlace] at hplace
    obtain ⟨_, hlist, -⟩ := hplace
    cases hlist
  | flag _ | int _ | double _ | text _ =>
    rw [InPlace] at hplace
    · cases hplace
    all_goals simp

namespace Manifest

variable {kind : Kind} {live desired : Manifest} {v : Json} {key : String}

/-- What is read of a value that has the form of the kind. -/
def reading (v : Json) : Manifest :=
  ⟨Metadata.ofJson ((v.member? "metadata").getD (.object [])), head.foldl eraseMember v⟩

theorem ofDocument?_of_holds (h : kind.shape.Holds v) :
    ofDocument? kind (.ofJson v) = some (reading v) := by
  unfold ofDocument?
  rw [Shape.fit?_ofJson h]
  rfl

/-- **An object** is written as it was read, but for its head. -/
theorem member?_toJson_reading (h : kind.shape.Holds v) :
    ((reading v).toJson kind).member? key =
      if key = "metadata" then some (reading v).metadata.toJson else v.member? key := by
  obtain ⟨t, rfl⟩ := Shape.exists_object_of_holds h
  have hversion : Table.get? t "apiVersion" = some (.text kind.apiVersion) :=
    Shape.exact_of_holds h (by simp [Shape.req])
  have hname : Table.get? t "kind" = some (.text kind.name) :=
    Shape.exact_of_holds h (by simp [Shape.req])
  change Table.get? ((((((Table.erase t "apiVersion").erase "kind").erase "metadata").insert
    "apiVersion" _).insert "kind" _).insert "metadata" _) key = if _ then _ else Table.get? t key
  rw [Table.get?_insert, Table.get?_insert, Table.get?_insert]
  by_cases hmetadata : key = "metadata"
  · rw [if_pos hmetadata, if_pos hmetadata.symm]
  rw [if_neg hmetadata, if_neg (Ne.symm hmetadata)]
  by_cases hkind : key = "kind"
  · rw [if_pos hkind.symm, hkind, hname]
  rw [if_neg (Ne.symm hkind)]
  by_cases hapi : key = "apiVersion"
  · rw [if_pos hapi.symm, hapi, hversion]
  rw [if_neg (Ne.symm hapi), Table.get?_erase_of_ne (Ne.symm hmetadata),
    Table.get?_erase_of_ne (Ne.symm hkind), Table.get?_erase_of_ne (Ne.symm hapi)]

theorem inPlace_toJson_reading {w : Json} (h : kind.shape.Holds v) (hw : kind.shape.Holds w)
    (hkept : ((w.member? "metadata").bind (·.member? "deletionTimestamp")) = none)
    (hplace : v.InPlace w) : ((reading v).toJson kind).InPlace w := by
  have hmetadata : ∀ {v}, kind.shape.Holds v →
      ∃ m, v.member? "metadata" = some m ∧ Shape.metadata.Holds m := by
    intro v h
    obtain ⟨hsome, hholds⟩ := Shape.field_of_holds "metadata" true .metadata h (by simp [Shape.req])
    exact (Option.isSome_iff_exists.mp (hsome rfl)).imp fun m hm => ⟨hm, hholds m hm⟩
  obtain ⟨m, hm, hholds⟩ := hmetadata h
  obtain ⟨n, hn, hholds'⟩ := hmetadata hw
  have hread := fun key => @member?_toJson_reading kind v key h
  obtain ⟨t, rfl⟩ := Shape.exists_object_of_holds h
  have horder := Shape.inOrder_of_holds hw
  obtain ⟨desired, rfl⟩ := Shape.exists_object_of_holds hw
  rw [InOrder] at horder
  have hparts := (inPlace_object horder.1).mp hplace
  refine (inPlace_object horder.1).mpr fun key => ?_
  change InPlaceAt (((reading (object t)).toJson kind).member? key) _
  rw [hread key]
  split
  · rename_i hkey
    subst hkey
    intro value hvalue hnull
    obtain rfl := Option.some.inj (hn.symm.trans hvalue)
    obtain ⟨m', hm', hpart⟩ := hparts "metadata" n hn hnull
    obtain rfl := Option.some.inj (hm.symm.trans hm')
    rw [hn, Option.bind_some] at hkept
    have hmetadata : (reading (object t)).metadata = Metadata.ofJson m := by
      unfold reading
      rw [hm]
      rfl
    refine ⟨_, rfl, ?_⟩
    rw [hmetadata]
    exact Metadata.inPlace_toJson hholds (Shape.inOrder_of_holds hholds') hkept hpart
  · exact hparts key

/-- Objects in the form of their kind are laid over each other, and what comes of it is read. -/
theorem overlay?_eq (h : kind.shape.Holds (live.toJson kind))
    (h' : kind.shape.Holds (desired.toJson kind)) :
    overlay? kind live desired = some (reading ((live.toJson kind).overlay (desired.toJson kind)),
      !(live.toJson kind).same ((live.toJson kind).overlay (desired.toJson kind))) := by
  unfold overlay?
  simp only [ofDocument?_of_holds (Shape.holds_overlay h h'), Option.map_some]

/-- **A desired object that is laid over a live one** is in place in what comes of it. -/
theorem inPlace_of_overlay? {merged : Manifest} {changed : Bool}
    (h : kind.shape.Holds (live.toJson kind)) (h' : kind.shape.Holds (desired.toJson kind))
    (hkept : desired.metadata.toJson.member? "deletionTimestamp" = none)
    (hoverlay : overlay? kind live desired = some (merged, changed)) :
    (merged.toJson kind).InPlace (desired.toJson kind) := by
  rw [overlay?_eq h h'] at hoverlay
  obtain ⟨rfl, -⟩ := Prod.mk.inj (Option.some.inj hoverlay)
  refine inPlace_toJson_reading (Shape.holds_overlay h h') h' ?_ (inPlace_overlay (Shape.inOrder_of_holds h'))
  change (Table.get? (Table.insert _ "metadata" _) "metadata").bind _ = none
  rw [Table.get?_insert, if_pos rfl]
  exact hkept

/-- **A desired object that is in place** changes nothing of a live one that it is laid over. -/
theorem overlay?_of_inPlace (h : kind.shape.Holds (live.toJson kind))
    (hreal : (live.toJson kind).IsReal)
    (hplace : (live.toJson kind).InPlace (desired.toJson kind)) :
    ∃ merged, overlay? kind live desired = some (merged, false) := by
  have hsame := overlay_of_inPlace (Shape.inOrder_of_holds h) hplace
  refine ⟨reading (live.toJson kind), ?_⟩
  unfold overlay?
  simp only [hsame, ofDocument?_of_holds h, same_self_iff.mpr hreal]
  rfl

end Manifest

end RaftMysql
