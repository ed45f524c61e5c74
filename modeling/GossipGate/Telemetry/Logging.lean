import GossipGate.Telemetry

namespace GossipGate

/-- Why log output cannot be set up. -/
inductive LoggingProblem where
  | unusableFilter
  | alreadyInstalled
  deriving DecidableEq, Repr

namespace Telemetry

def levelNames : List String := ["off", "error", "warn", "info", "debug", "trace"]

/-- A level by name, without regard to ASCII case, or by its number. -/
def isLevel (s : String) : Bool :=
  levelNames.contains (lowerAscii s) || (readNatural? levelNames.length s).isSome

/-- A directive is a target or a level, or a target with a level behind an equals sign. -/
def isDirective (s : String) : Bool :=
  match s.splitOn "=" with
  | [_] => true
  | [_, level] => level.isEmpty || isLevel level
  | _ => false

/-- A filter is a list of directives with commas between them. -/
def isFilter (s : String) : Bool :=
  (s.splitOn ",").all fun directive => isDirective (trimBlank directive)

/-- Sets log output up. The filter of the environment goes before the configured level, and only
one output can be installed. -/
def startLogging (t : Telemetry) (env : Environment) (installed : Bool) :
    Except LoggingProblem Unit :=
  if !((env "RUST_LOG").any isFilter || isFilter t.logLevel) then .error .unusableFilter
  else if installed then .error .alreadyInstalled
  else .ok ()

end Telemetry

end GossipGate
