import RaftMysql.Settings.Form

/-!
# The command line

`Options.read` reads the arguments of the program, long with two dashes or short with one, each value
after its option or behind an equals sign. `Options.settings` are the settings that the options ask
for, from the content of their file.
-/

namespace RaftMysql

/-- What the program was asked to do. -/
structure Options where
  /-- The namespace to look after; all of them when empty. -/
  space : String := ""
  metricsPort : Nat := 9104
  healthPort : Nat := 8081
  logLevel : String := "info"
  /-- The file with the settings. -/
  config : Option String := none
  /-- The time between two status passes, in place of the one in the settings. -/
  statusSeconds : Option Nat := none
  /-- Print the definitions of the kinds and stop. -/
  printDefinitions : Bool := false
  deriving DecidableEq, Repr

namespace Options

/-- An option of the command line. -/
inductive Flag where
  | space
  | metricsPort
  | healthPort
  | logLevel
  | config
  | statusSeconds
  | printDefinitions
  deriving DecidableEq, Repr

/-- The spellings of the options. -/
def spellings : List (String × Flag) :=
  [("-n", .space), ("--namespace", .space), ("-m", .metricsPort), ("--metrics-port", .metricsPort),
   ("-H", .healthPort), ("--health-port", .healthPort), ("-l", .logLevel),
   ("--log-level", .logLevel), ("-c", .config), ("--config", .config),
   ("--status-interval-secs", .statusSeconds), ("--print-crds", .printDefinitions)]

/-- A port. -/
def port? (s : String) : Option Nat :=
  let cs := s.toList
  let n := Decimal.numeral cs
  if cs ≠ [] ∧ cs.all Decimal.isDigit ∧ n < Nat.pow 2 16 then some n else none

/-- A number of seconds. -/
def seconds? (s : String) : Option Nat :=
  let cs := s.toList
  let n := Decimal.numeral cs
  if cs ≠ [] ∧ cs.all Decimal.isDigit ∧ n < Nat.pow 2 64 then some n else none

/-- The options with the value of one set. -/
def set? (o : Options) (flag : Flag) (value : String) : Option Options :=
  match flag with
  | .space => some { o with space := value }
  | .metricsPort => (port? value).map fun n => { o with metricsPort := n }
  | .healthPort => (port? value).map fun n => { o with healthPort := n }
  | .logLevel => some { o with logLevel := value }
  | .config => some { o with config := some value }
  | .statusSeconds => (seconds? value).map fun n => { o with statusSeconds := some n }
  | .printDefinitions => none

/-- An argument in two at its first equals sign. -/
def splitArgument (argument : String) : String × Option String :=
  let cs := argument.toList
  match cs.dropWhile (· ≠ '=') with
  | [] => (argument, none)
  | _ :: value => (String.ofList (cs.takeWhile (· ≠ '=')), some (String.ofList value))

/-- The complaint about an argument. -/
def complaint (argument : String) : Error := .invalidSetting argument "Unexpected argument"

/-- Sets the options that arguments ask for, one after the other. -/
def readFrom (o : Options) : List String → Except Error Options
  | [] => .ok o
  | argument :: arguments =>
    let (spelling, value) := splitArgument argument
    match spellings.lookup spelling, value, arguments with
    | none, _, _ => .error (complaint argument)
    | some .printDefinitions, none, arguments => readFrom { o with printDefinitions := true } arguments
    | some .printDefinitions, some _, _ => .error (complaint argument)
    | some flag, some value, arguments => match o.set? flag value with
      | some o => readFrom o arguments
      | none => .error (complaint argument)
    | some flag, none, value :: arguments => match o.set? flag value with
      | some o => readFrom o arguments
      | none => .error (complaint argument)
    | some _, none, [] => .error (complaint argument)

/-- The options that the arguments of the program ask for. -/
def read (arguments : List String) : Except Error Options := readFrom {} arguments

/-- The settings that the options ask for, from the content of their file if they name one. -/
def settings (o : Options) (content : Option (List UInt8)) : Except Error Settings := do
  let settings ← match o.config with
    | some path => Settings.ofBytes path content
    | none => .ok {}
  match o.statusSeconds with
  | none => return settings
  | some seconds =>
    let settings :=
      { settings with status := { settings.status with interval := Duration.ofSeconds seconds } }
    settings.check
    return settings

end Options

end RaftMysql
