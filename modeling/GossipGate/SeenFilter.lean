import GossipGate.Engine.Receive
import GossipGate.Engine.Upkeep

namespace GossipGate

/-- A gate for callers that only have hashes, with a fixed capacity and TTL. -/
structure SeenFilter (α : Type) where
  engine : Engine α

namespace SeenFilter

variable {α : Type} [Scalar α]

/-- The settings of a filter. A capacity of zero and a TTL of zero leave the defaults; a TTL outside
the default bounds widens them. -/
def config (capacity : UInt64) (ttl : Duration) : Config α :=
  let base : Config α := .ofTier .free
  let sized := if capacity = 0 then base else { base with capacity := some capacity }
  if ttl.isZero then sized
  else
    let bounds := sized.bounds.including ttl
    { sized with baseTtl := some ttl, minTtl := bounds.min, maxTtl := bounds.max }

def start (capacity : UInt64) (ttl : Duration) (now : Nat) :
    Except ConfigProblem (SeenFilter α × List (Event α)) :=
  (Engine.start (config capacity ttl) now).map fun reply => (⟨reply.engine⟩, reply.events)

def message (hash : String) : Message :=
  { hash, messageType := "unknown", peer := ""
    metadata := { Metadata.empty with source := some "legacy" } }

/-- Whether a hash was seen within the TTL. -/
def seen (f : SeenFilter α) (now : Nat) (hash : String) : Except Fault (Reply α Bool) :=
  f.engine.receive now (message hash)

def cleanup (f : SeenFilter α) (now : Nat) : Reply α CleanupCounts := f.engine.cleanup now

def size (f : SeenFilter α) : Nat := f.engine.store.size

def isEmpty (f : SeenFilter α) : Bool := f.size == 0

end SeenFilter

end GossipGate
