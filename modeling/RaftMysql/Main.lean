import RaftMysql.Operator.Options
import RaftMysql.Operator.Reconcile
import RaftMysql.Cluster.Definition
import RaftMysql.Simulation.Nowhere
import RaftMysql.Json.Writer

/-!
# The program

Reads the command line and the settings, and prints the definitions of the kinds when asked to. The
library does its work through requests and brings no network of its own: without one, the program ends
with the error of the first request.
-/

open RaftMysql

/-- The content of a file, if it can be read. -/
def fileContent (path : String) : IO (Option (List UInt8)) := do
  try
    return some (← IO.FS.readBinFile path).toList
  catch _ =>
    return none

/-- Prints the definitions of the kinds. -/
def printDefinitions : IO Unit := do
  IO.println Kind.cluster.definition.write
  IO.println "---"
  IO.println Kind.backup.definition.write

/-- Says what went wrong. -/
def fail (e : Error) : IO UInt32 := do
  IO.eprintln ("Error: " ++ e.message)
  return 1

/-- Starts the operator. -/
def start (o : Options) : IO UInt32 := do
  let content ← match o.config with
    | some path => fileContent path
    | none => pure none
  match o.settings content with
  | .error e => fail e
  | .ok _ =>
    let nowhere : Simulation.Nowhere := { now := ⟨0, 0⟩ }
    match (nowhere.run Operator.verify).1 with
    | .error e => fail e
    | .ok () => return 0

def main (arguments : List String) : IO UInt32 := do
  match Options.read arguments with
  | .error e => fail e
  | .ok o =>
    if o.printDefinitions then
      printDefinitions
      return 0
    else start o
