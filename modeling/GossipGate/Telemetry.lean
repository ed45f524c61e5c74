import GossipGate.Config.Environment
import GossipGate.Json.Record
import GossipGate.Text.Blank

namespace GossipGate

/-- The settings of logs and metrics; `metricsSocket` is the TCP number at which metrics are
served. -/
structure Telemetry where
  serviceName : String
  logLevel : String
  consoleOutput : Bool
  jsonLogs : Bool
  metricsSocket : UInt16
  deriving DecidableEq, Repr

namespace Telemetry

def default : Telemetry :=
  { serviceName := "relay-node", logLevel := "info", consoleOutput := true, jsonLogs := false
    metricsSocket := 9100 }

/-- `true` or `1`, `false` or `0`, without regard to ASCII case and to blanks around it. -/
def flag? (s : String) : Option Bool :=
  match lowerAscii (trimBlank s) with
  | "true" | "1" => some true
  | "false" | "0" => some false
  | _ => none

/-- Settings from an environment. Logs are JSON in a container unless said otherwise. -/
def ofEnvironment (env : Environment) : Telemetry :=
  let inContainer := (env "KUBERNETES_SERVICE_HOST").isSome || (env "DOCKER_CONTAINER").isSome
  { serviceName := (env "RELAY_SERVICE_NAME").getD default.serviceName
    logLevel := ((env "RELAY_LOG_LEVEL").or (env "RUST_LOG")).getD default.logLevel
    consoleOutput := ((env "RELAY_CONSOLE_OUTPUT").bind flag?).getD default.consoleOutput
    jsonLogs := ((env "RELAY_JSON_LOGS").bind flag?).getD inContainer
    metricsSocket :=
      (((env "RELAY_METRICS_PORT").bind (readNatural? UInt16.size)).map UInt16.ofNat).getD
        default.metricsSocket }

/-- The settings of one component of a node. -/
def ofComponent (env : Environment) (component : String) : Telemetry :=
  { ofEnvironment env with serviceName := "relay-" ++ component }

open RecordReader in
/-- Every field that is left out has its default. -/
def reader : RecordReader Telemetry :=
  let socket (json : Json) := (Json.nat? UInt16.size json).map UInt16.ofNat
  Telemetry.mk <$> withDefault "service_name" (.plain Json.text?) default.serviceName
    <*> withDefault "log_level" (.plain Json.text?) default.logLevel
    <*> withDefault "console_output" (.plain Json.bool?) default.consoleOutput
    <*> withDefault "json_logs" (.plain Json.bool?) default.jsonLogs
    <*> withDefault "metrics_port" (.plain socket) default.metricsSocket

def ofJson : JsonReader Telemetry := reader.read

end Telemetry

end GossipGate
