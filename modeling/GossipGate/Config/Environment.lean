import GossipGate.Config
import GossipGate.Text.Numeral

namespace GossipGate

/-- The variables of an environment. -/
abbrev Environment := String → Option String

namespace Config

variable {α : Type} [Scalar α]

def wordVariable (env : Environment) (name : String) : Option Nat :=
  (env name).bind (readNatural? UInt64.size)

/-- Settings from an environment. A number that cannot be read counts as not set. -/
def ofEnvironment (env : Environment) : Config α :=
  { ofTier (((env "RELAY_DEDUP_TIER").map Tier.serving).getD .free) with
    capacity := (wordVariable env "RELAY_DEDUP_CAPACITY").map UInt64.ofNat
    baseTtl := (wordVariable env "RELAY_DEDUP_BASE_TTL_SECS").map .ofSeconds
    shards := (wordVariable env "RELAY_DEDUP_SHARDS").map UInt64.ofNat }

end Config

end GossipGate
