import RaftMysql.Table

/-!
# Leaders on their way out

While leadership moves, the leader is read-only on purpose and must not be made writable again.
`Handoffs` is the set of clusters for which that is so, shared by everyone who asks. `HeldHandoffs`
adds names under which moves are held: a move that is held goes on until its name is released, or
taken by another move.
-/

namespace RaftMysql

/-- The clusters whose leadership is moving. -/
structure Handoffs where
  active : List String := []
  deriving DecidableEq, Repr

namespace Handoffs

/-- Leadership of the cluster is moving. -/
def inProgress (h : Handoffs) (cluster : String) : Bool := h.active.contains cluster

/-- The move for a cluster begins. -/
def start (h : Handoffs) (cluster : String) : Handoffs :=
  if h.inProgress cluster then h else ⟨cluster :: h.active⟩

/-- The move for a cluster is over. -/
def stop (h : Handoffs) (cluster : String) : Handoffs := ⟨h.active.filter (· ≠ cluster)⟩

end Handoffs

/-- Moves of leadership, some of them held under a name. -/
structure HeldHandoffs where
  moves : Handoffs := {}
  /-- The clusters of the moves that are held, by their names. -/
  held : Table String := []

namespace HeldHandoffs

/-- Lets go of the move held under a name, if there is one. -/
def release (h : HeldHandoffs) (name : String) : HeldHandoffs :=
  match h.held.get? name with
  | some cluster => ⟨h.moves.stop cluster, h.held.erase name⟩
  | none => h

/-- Begins a move and holds it under a name. What was held under that name is released after the
new move began, even when both are for the same cluster. -/
def hold (h : HeldHandoffs) (name cluster : String) : HeldHandoffs :=
  let after := HeldHandoffs.release ⟨h.moves.start cluster, h.held⟩ name
  ⟨after.moves, after.held.insert name cluster⟩

end HeldHandoffs

end RaftMysql
