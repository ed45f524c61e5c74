import GossipGate.Event

namespace GossipGate

inductive LogLevel where
  | debug | info | warn
  deriving DecidableEq, Repr

def LogLevel.name : LogLevel → String
  | debug => "DEBUG"
  | info => "INFO"
  | warn => "WARN"

inductive LogValue (α : Type) where
  | text (value : String)
  | count (value : Nat)
  | flag (value : Bool)
  | measure (value : α)

structure LogRecord (α : Type) where
  level : LogLevel
  message : String
  fields : List (String × LogValue α)

namespace Event

variable {α : Type} [Scalar α]

def subsystem : String × LogValue α := ("subsystem", .text "p2p-dedup")

def anomalyRecord : Anomaly α → LogRecord α
  | .peerFlooding peer gap duplicateRate =>
    ⟨.warn, "[p2p-dedup] Potential P2P flooding detected",
      [subsystem, ("peer_id", .text peer), ("gap_ms", .count gap),
        ("duplicate_rate", .measure duplicateRate)]⟩
  | .velocitySpike messageType velocity mean =>
    ⟨.warn, "[p2p-dedup] Anomalous message velocity detected",
      [("message_type", .text messageType), ("current_velocity", .measure velocity),
        ("average_velocity", .measure mean)]⟩

/-- The log record of an event. Events that only move a metric have none. -/
def record? : Event α → Option (LogRecord α)
  | tierUnknown requested =>
    some ⟨.warn, "[p2p-dedup] Unknown tier, falling back to FREE feature set",
      [("requested", .text requested)]⟩
  | started profile capacity baseTtl shards =>
    some ⟨.info, "[p2p-dedup] Deduper initialized",
      [("tier", .text profile.tier.name), ("capacity", .count capacity),
        ("base_ttl_secs", .measure baseTtl.toSeconds), ("shards", .count shards),
        ("peer_tracking", .flag profile.peerTracking),
        ("reputation_scoring", .flag profile.reputationScoring),
        ("adaptive_learning", .flag profile.adaptiveLearning)]⟩
  | blacklisted _ peer score duplicateRate =>
    some ⟨.warn, "[p2p-dedup] Peer blacklisted",
      [subsystem, ("peer_id", .text peer), ("reputation", .measure score),
        ("duplicate_rate", .measure duplicateRate), ("reason", .text Peer.blacklistText)]⟩
  | evicted _ policy entry =>
    some ⟨.debug, "[p2p-dedup] Entry evicted",
      [("policy", .text policy.name), ("message_type", .text entry.messageType),
        ("priority", .count entry.priority)]⟩
  | saturated messageType =>
    some ⟨.debug, "[p2p-dedup] Store saturated under contention, message not tracked",
      [("message_type", .text messageType)]⟩
  | ttlAdjusted tier duplicateRate old change =>
    some ⟨.debug, "[p2p-dedup] TTL adjusted",
      [("tier", .text tier.name), ("duplicate_rate", .measure duplicateRate),
        ("old_ttl_secs", .measure old.toSeconds),
        ("new_ttl_secs", .measure change.ttl.toSeconds)]⟩
  | anomalyFound _ anomaly => some (anomalyRecord anomaly)
  | cleaned tier entriesRemoved entriesLeft peersRemoved peersLeft =>
    some ⟨.debug, "[p2p-dedup] Cleanup completed",
      [("entries_removed", .count entriesRemoved), ("entries_remaining", .count entriesLeft),
        ("peers_removed", .count peersRemoved), ("peers_tracked", .count peersLeft),
        ("tier", .text tier.name)]⟩
  | tierChanged old new capacity =>
    some ⟨.info, "[p2p-dedup] Tier updated",
      [subsystem, ("old_tier", .text old.name), ("new_tier", .text new.name),
        ("new_capacity", .count capacity)]⟩
  | closed tier seen duplicates peers =>
    some ⟨.info, "[p2p-dedup] Deduper shutdown",
      [("tier", .text tier.name), ("total_processed", .count seen),
        ("duplicates_found", .count duplicates), ("peers_tracked", .count peers)]⟩
  | maintained entriesRemoved peersRemoved =>
    some ⟨.debug, "[p2p-dedup] Maintenance cleanup",
      [("entries_removed", .count entriesRemoved), ("peers_removed", .count peersRemoved)]⟩
  | maintenanceStopped => some ⟨.info, "[p2p-dedup] Maintenance task stopped", []⟩
  | velocityMeasured _ _ _ | suppressed _ _ _ | scored _ _ _ | typeTtlLearned _ _ _ _ => none

end Event

end GossipGate
