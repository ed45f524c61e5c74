import GossipGate.Engine

namespace GossipGate

/-- A copy of counters, TTLs and records at one moment. -/
structure Snapshot (α : Type) where
  profile : Profile
  seen : Nat
  duplicates : Nat
  duplicateRate : α
  ttl : Duration
  bounds : TtlBounds
  capacity : Nat
  size : Nat
  shards : Nat
  learningRate : α
  confidenceThreshold : α
  anomalyThreshold : α
  traffic : Table String (Traffic α)
  peers : Table String (Peer α)

def Engine.snapshot {α : Type} [Scalar α] (e : Engine α) : Snapshot α :=
  { profile := e.profile, seen := e.seen, duplicates := e.duplicates
    duplicateRate := Scalar.share e.duplicates e.seen
    ttl := e.globalTtl, bounds := e.tuning.window.toTtlBounds
    capacity := e.store.capacity, size := e.store.size, shards := e.store.shards.length
    learningRate := e.tuning.learningRate, confidenceThreshold := e.tuning.confidenceThreshold
    anomalyThreshold := e.tuning.anomalyThreshold, traffic := e.traffic, peers := e.peers }

def Snapshot.toJson (s : Snapshot Float) : Json :=
  .object [("tier", s.profile.tier.toJson), ("total_seen", .nat s.seen),
    ("duplicates_found", .nat s.duplicates), ("global_duplicate_rate", .float s.duplicateRate),
    ("current_ttl", s.ttl.toJson), ("min_ttl", s.bounds.min.toJson),
    ("max_ttl", s.bounds.max.toJson), ("capacity", .nat s.capacity),
    ("current_size", .nat s.size), ("shard_count", .nat s.shards),
    ("features", s.profile.toJson), ("learning_rate", .float s.learningRate),
    ("confidence_threshold", .float s.confidenceThreshold),
    ("anomaly_threshold", .float s.anomalyThreshold),
    ("message_types", .object (s.traffic.entries.map fun p => (p.1, p.2.toJson))),
    ("peers", .object (s.peers.entries.map fun p => (p.1, p.2.toJson)))]

end GossipGate
