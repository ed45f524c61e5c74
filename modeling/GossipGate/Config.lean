import GossipGate.Network
import GossipGate.Tier
import GossipGate.Ttl.Bounds

namespace GossipGate

/-- The settings of a gate. Capacity, initial TTL and shards are the tier's where they are left
open. -/
structure Config (α : Type) where
  tier : Tier
  capacity : Option UInt64
  baseTtl : Option Duration
  minTtl : Duration
  maxTtl : Duration
  adjustEvery : Duration
  learningRate : α
  confidenceThreshold : α
  anomalyThreshold : α
  reputationDecay : Duration
  shards : Option UInt64
  networks : List Network

namespace Config

variable {α : Type} [Scalar α]

def ofTier (tier : Tier) : Config α :=
  { tier, capacity := none, baseTtl := none
    minTtl := .ofSeconds 5, maxTtl := .ofMinutes 30, adjustEvery := .ofMinutes 1
    learningRate := 0.05, confidenceThreshold := 0.75, anomalyThreshold := 3.0
    reputationDecay := .ofSeconds 86400, shards := none, networks := [] }

def default : Config α := ofTier .free

theorem minTtl_le_maxTtl_ofTier (tier : Tier) :
    (ofTier tier : Config α).minTtl ≤ (ofTier tier : Config α).maxTtl := by
  show Duration.ofSeconds 5 ≤ Duration.ofMinutes 30
  decide

def bounds (c : Config α) : TtlBounds := ⟨c.minTtl, c.maxTtl⟩

def effectiveCapacity (c : Config α) : Nat := (c.capacity.map UInt64.toNat).getD c.tier.capacity

def effectiveBaseTtl (c : Config α) : Duration := c.baseTtl.getD c.tier.baseTtl

def effectiveShards (c : Config α) : Nat := (c.shards.map UInt64.toNat).getD c.tier.shards

end Config

end GossipGate
