import GossipGate.Anomaly
import GossipGate.Retention
import GossipGate.Ttl.Control

namespace GossipGate

/-- Why a message is suppressed. -/
inductive Suppression where
  | duplicate | blacklisted
  deriving DecidableEq, Repr

def Suppression.name : Suppression → String
  | duplicate => "duplicate"
  | blacklisted => "blacklisted"

/-- What happens in a gate and is worth telling. Log records and metrics are views of events. -/
inductive Event (α : Type) where
  | tierUnknown (requested : String)
  | started (profile : Profile) (capacity : Nat) (baseTtl : Duration) (shards : Nat)
  | velocityMeasured (tier : Tier) (messageType : String) (velocity : α)
  | suppressed (tier : Tier) (messageType : String) (reason : Suppression)
  | scored (tier : Tier) (peer : String) (score : α)
  | blacklisted (tier : Tier) (peer : String) (score duplicateRate : α)
  | evicted (tier : Tier) (policy : EvictionPolicy) (entry : Entry α)
  | saturated (messageType : String)
  | typeTtlLearned (tier : Tier) (messageType : String) (duplicateRate : α) (ttl : Duration)
  | ttlAdjusted (tier : Tier) (duplicateRate : α) (old : Duration) (change : TtlChange)
  | anomalyFound (tier : Tier) (anomaly : Anomaly α)
  | cleaned (tier : Tier) (entriesRemoved entriesLeft peersRemoved peersLeft : Nat)
  | tierChanged (old new : Tier) (capacity : Nat)
  | closed (tier : Tier) (seen duplicates peers : Nat)
  | maintained (entriesRemoved peersRemoved : Nat)
  | maintenanceStopped

/-- The event of serving a request for a tier that does not exist. -/
def Event.ofTierRequest {α : Type} (requested : String) : List (Event α) :=
  if (Tier.read? requested).isNone then [.tierUnknown requested] else []

end GossipGate
