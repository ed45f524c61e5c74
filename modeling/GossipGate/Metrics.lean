import GossipGate.Fault
import GossipGate.Hash.Fnv
import GossipGate.Scalar
import GossipGate.Table

namespace GossipGate

inductive Metric where
  | duplicatesSuppressed | evictions | ttlAdjustments | adaptiveTtl | duplicateRate
  | messageVelocity | peerReputation | peersBlacklisted | anomaliesDetected
  deriving DecidableEq, Repr

namespace Metric

def name : Metric → String
  | duplicatesSuppressed => "p2p_duplicates_suppressed_total"
  | evictions => "p2p_evictions_total"
  | ttlAdjustments => "p2p_ttl_adjustments_total"
  | adaptiveTtl => "p2p_adaptive_ttl_seconds"
  | duplicateRate => "p2p_duplicate_rate"
  | messageVelocity => "p2p_message_velocity"
  | peerReputation => "p2p_peer_reputation_score"
  | peersBlacklisted => "p2p_peers_blacklisted_total"
  | anomaliesDetected => "p2p_anomalies_detected_total"

def help : Metric → String
  | duplicatesSuppressed => "Number of duplicate P2P messages suppressed"
  | evictions => "Dedup entries evicted to stay within capacity"
  | ttlAdjustments => "Number of TTL adjustments made for P2P deduplication"
  | adaptiveTtl => "Current adaptive TTL for P2P deduplication"
  | duplicateRate => "Current duplicate rate for P2P messages"
  | messageVelocity => "Messages per second for different message types"
  | peerReputation => "Reputation score for P2P peers based on duplicate behavior"
  | peersBlacklisted => "Peers blacklisted for sustained duplicate flooding"
  | anomaliesDetected => "Anomalous P2P traffic patterns detected"

/-- The names of the labels, in the order in which values are given. -/
def labels : Metric → List String
  | duplicatesSuppressed => ["message_type", "peer_type", "tier"]
  | evictions => ["policy", "tier"]
  | ttlAdjustments => ["direction", "tier"]
  | adaptiveTtl => ["message_type", "tier"]
  | duplicateRate => ["message_type", "tier"]
  | messageVelocity => ["message_type", "tier"]
  | peerReputation => ["peer_id", "tier"]
  | peersBlacklisted => ["tier"]
  | anomaliesDetected => ["kind", "tier"]

/-- Gauges can be set; the others are counters. -/
def isGauge : Metric → Bool
  | adaptiveTtl | duplicateRate | messageVelocity | peerReputation => true
  | _ => false

/-- All metrics in the order of their names. -/
def all : List Metric :=
  [adaptiveTtl, anomaliesDetected, duplicateRate, duplicatesSuppressed, evictions, messageVelocity,
    peerReputation, peersBlacklisted, ttlAdjustments]

end Metric

/-- One change of one series: its metric, its label values and the value to set, or none to count
one up. -/
structure Sample (α : Type) where
  metric : Metric
  labels : List String
  value : Option α

namespace Sample

/-- The series that a sample belongs to: its metric and a hash of its label values, joined without
marks between them. -/
def seriesKey {α : Type} (s : Sample α) : Metric × UInt64 :=
  (s.metric, fnv1a (s.labels.flatMap fun value => value.toUTF8.toList))

end Sample

/-- One series: the label values of its first sample, and its value. -/
structure Series (α : Type) where
  labels : List String
  value : α

/-- The series of all metrics. -/
structure Metrics (α : Type) where
  series : Table (Metric × UInt64) (Series α)

namespace Metrics

variable {α : Type} [Scalar α]

def empty : Metrics α := ⟨.empty⟩

/-- Applies one change. A series starts at zero. -/
def apply (m : Metrics α) (s : Sample α) : Metrics α :=
  let series := (m.series.get? s.seriesKey).getD ⟨s.labels, 0.0⟩
  ⟨m.series.insert s.seriesKey { series with value := s.value.getD (series.value + 1.0) }⟩

/-- Applies a change whose label values match the labels of the metric in number. -/
def record (m : Metrics α) (s : Sample α) : Except Fault (Metrics α) :=
  if s.labels.length = s.metric.labels.length then .ok (m.apply s) else .error .labelCount

end Metrics

end GossipGate
