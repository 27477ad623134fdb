import RaftMysql.Object.Manifest
import RaftMysql.Quantity

/-!
# Storage claims

A claim asks for a size and, once it is bound, has one. It is settled at a size when it has it, or
when only the file system inside still has to grow.
-/

namespace RaftMysql

/-- A storage claim. -/
abbrev Claim := Manifest

namespace Claim

/-- Where a claim says how much storage it asks for. -/
def requestPath : List String := ["spec", "resources", "requests", "storage"]

/-- The size that a claim asks for. -/
def request? (c : Claim) : Option String := c.text? requestPath

/-- The size that a claim has. -/
def capacity? (c : Claim) : Option String := c.text? ["status", "capacity", "storage"]

/-- The storage has grown and only the file system in it still has to. -/
def awaitsFileSystem (c : Claim) : Bool :=
  (c.items ["status", "conditions"]).any fun condition =>
    (condition.member? "type").bind Json.asText? == some "FileSystemResizePending"

/-- A resize to this size needs no more waiting. -/
def isSettled (c : Claim) (size : String) : Bool :=
  awaitsFileSystem c || match capacity? c with
    | some capacity => Quantity.isSame capacity size
    | none => false

theorem isSettled_iff {c : Claim} {size : String} : c.isSettled size = true ↔
    c.awaitsFileSystem = true ∨
      ∃ capacity, c.capacity? = some capacity ∧ Quantity.isSame capacity size = true := by
  unfold isSettled
  rw [Bool.or_eq_true]
  cases c.capacity? with
  | none => simp
  | some capacity => simp

/-- The claim with another size asked for and with an owner, unless it has that owner already. -/
def resized (c : Claim) (size : String) (owner : Option Owner) : Claim where
  body := c.body.setAt requestPath (.text size)
  metadata := match owner with
    | none => c.metadata
    | some owner =>
      let owners := c.metadata.owners.getD []
      { c.metadata with
        owners := some (if owners.any fun o => o.uid == owner.uid then owners else owners ++ [owner]) }

end Claim

end RaftMysql
