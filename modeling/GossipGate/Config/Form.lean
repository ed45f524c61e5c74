import GossipGate.Config

namespace GossipGate

namespace Config

def toJson (c : Config Float) : Json :=
  .object [("tier", c.tier.toJson),
    ("capacity", .optional (fun n : UInt64 => .nat n.toNat) c.capacity),
    ("base_ttl", .optional Duration.toJson c.baseTtl),
    ("min_ttl", c.minTtl.toJson), ("max_ttl", c.maxTtl.toJson),
    ("adjust_every", c.adjustEvery.toJson), ("learning_rate", .float c.learningRate),
    ("confidence_threshold", .float c.confidenceThreshold),
    ("anomaly_threshold", .float c.anomalyThreshold),
    ("reputation_decay", c.reputationDecay.toJson),
    ("shard_count", .optional (fun n : UInt64 => .nat n.toNat) c.shards),
    ("networks", .array (c.networks.map Network.toJson))]

open RecordReader in
/-- Every field that is left out has its default. -/
def reader : RecordReader (Config Float) :=
  let absent : Config Float := .default
  Config.mk <$> withDefault "tier" Tier.ofJson absent.tier
    <*> withDefault "capacity" (.orNull (.plain Json.word?)) absent.capacity
    <*> withDefault "base_ttl" (.orNull Duration.ofJson) absent.baseTtl
    <*> withDefault "min_ttl" Duration.ofJson absent.minTtl
    <*> withDefault "max_ttl" Duration.ofJson absent.maxTtl
    <*> withDefault "adjust_every" Duration.ofJson absent.adjustEvery
    <*> withDefault "learning_rate" (.plain Json.float?) absent.learningRate
    <*> withDefault "confidence_threshold" (.plain Json.float?) absent.confidenceThreshold
    <*> withDefault "anomaly_threshold" (.plain Json.float?) absent.anomalyThreshold
    <*> withDefault "reputation_decay" Duration.ofJson absent.reputationDecay
    <*> withDefault "shard_count" (.orNull (.plain Json.word?)) absent.shards
    <*> withDefault "networks" (.list Network.ofJson) absent.networks

def ofJson : JsonReader (Config Float) := reader.read

end Config

end GossipGate
