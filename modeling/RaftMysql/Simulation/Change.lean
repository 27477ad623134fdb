import RaftMysql.Object.Kind
import RaftMysql.Json.Basic
import RaftMysql.Time.Basic
import RaftMysql.Error

/-!
# What can be done to a simulated world

A `Change` is a step by which a world is furnished or disturbed from outside. A `Hook` is something
the platform does by itself when objects are written or deleted, and a `Fault` makes a call to the
object store fail.
-/

namespace RaftMysql.Simulation

/-- A patch of an object some time later. -/
structure FollowUp where
  after : Duration
  patch : Json

/-- What the platform does by itself. -/
inductive Reaction where
  /-- Patches every object that is created or replaced, before it is stored. -/
  | write (patch : Json) (followUps : List FollowUp)
  /-- Refuses to replace an object when what a pointer points at differs. -/
  | reject (pointer : String) (code : Nat) (reason : String)
  /-- Keeps a deleted object on its way out, or puts a patched copy in its place. -/
  | delete (copy : Option Json) (after : Duration) (lingers : Bool) (followUps : List FollowUp)

/-- A reaction to calls about objects of a kind, of some names or of any. -/
structure Hook where
  kind : Kind
  names : Option (List String) := none
  reaction : Reaction

/-- The hook is about an object. -/
def Hook.concerns (h : Hook) (kind : Kind) (name : String) : Bool :=
  h.kind == kind && match h.names with
    | some names => names.contains name
    | none => true

/-- A call that fails so many times, after so many that went through. -/
structure Fault where
  call : String
  error : Error
  skip : Nat := 0
  times : Nat := 1

/-- A step by which a world is furnished or disturbed. -/
inductive Change where
  /-- Puts an object in place. -/
  | seed (kind : Kind) (object : Json)
  /-- Puts the pod of a member in place. -/
  | seedPod (ordinal : Int) (role healthy revision : String) (patch : Json)
  /-- Puts the data claim of a member in place. -/
  | seedClaim (ordinal : Int) (size : String) (patch : Json)
  /-- Puts the desired workload in place, with so many members ready and updated. -/
  | seedWorkload (ready updated : Option Int) (revision : String)
  /-- Puts the secret in place. -/
  | seedSecret (patch : Json)
  /-- Puts the pods of all members in place and starts their servers. -/
  | seedMembers (leader : Int)
  /-- Patches an object. -/
  | edit (kind : Kind) (name : String) (patch : Json)
  /-- Takes an object away. -/
  | remove (kind : Kind) (name : String)
  /-- Patches how the member on a host behaves. -/
  | member (host : String) (patch : Json)
  /-- Sets the peers of the consensus group. -/
  | peers (peers : List String)
  /-- Keeps a copy of the cluster under a name. -/
  | save (name : String)
  /-- Lets time pass. -/
  | advance (time : Duration)
  /-- Puts a move of leadership on record. -/
  | beginHandoff
  /-- Takes that move off the record. -/
  | endHandoff
  | fault (fault : Fault)
  | hook (hook : Hook)
  /-- Another change, some time later. -/
  | later (after : Duration) (change : Change)

/-- How many changes there are in a change that may be put off. -/
def Change.depth : Change → Nat
  | later _ change => change.depth + 1
  | _ => 1

end RaftMysql.Simulation
