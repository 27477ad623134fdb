import RaftMysql.Program.Waiting

/-!
# Steps from a script

`Looks` is a clock with a row of steps, each of which may take a while and ends in a value or an
error; the last one repeats. Waiting and trying again can be run in it, and the moments at which
steps begin are kept.
-/

namespace RaftMysql

/-- How a step turns out. -/
structure Look (α : Type) where
  outcome : Except Error α
  takes : Duration := 0

/-- A clock and the steps to come. -/
structure Looks (α : Type) where
  clock : Duration := 0
  coming : List (Look α)
  /-- When steps began, in reverse. -/
  began : List Duration := []

namespace Looks

variable {α : Type}

instance : Timer (StateM (Looks α)) where
  clock := do return (← get).clock
  sleep d := modify fun s => { s with clock := s.clock + d }

/-- The next step; without any the default value, at once. -/
def next [Inhabited α] : ExceptT Error (StateM (Looks α)) α := ExceptT.mk do
  let s ← get
  match s.coming with
  | [] => return .ok default
  | look :: rest =>
    set { s with
      clock := s.clock + look.takes
      coming := if rest.isEmpty then [look] else rest
      began := s.clock :: s.began }
    return look.outcome

end Looks

end RaftMysql
