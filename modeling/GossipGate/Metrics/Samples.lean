import GossipGate.Event
import GossipGate.Metrics

namespace GossipGate

namespace Event

variable {α : Type} [Scalar α]

/-- What an event changes in the metrics, in order. -/
def samples : Event α → List (Sample α)
  | started profile _ baseTtl _ =>
    [⟨.adaptiveTtl, ["global", profile.tier.name], some baseTtl.toSeconds⟩]
  | velocityMeasured tier messageType velocity =>
    [⟨.messageVelocity, [messageType, tier.name], some velocity⟩]
  | suppressed tier messageType reason =>
    [⟨.duplicatesSuppressed, [messageType, reason.name, tier.name], none⟩]
  | scored tier peer score => [⟨.peerReputation, [peer, tier.name], some score⟩]
  | blacklisted tier _ _ _ => [⟨.peersBlacklisted, [tier.name], none⟩]
  | evicted tier policy _ => [⟨.evictions, [policy.name, tier.name], none⟩]
  | typeTtlLearned tier messageType duplicateRate ttl =>
    [⟨.duplicateRate, [messageType, tier.name], some duplicateRate⟩,
      ⟨.adaptiveTtl, [messageType, tier.name], some ttl.toSeconds⟩]
  | ttlAdjusted tier duplicateRate _ change =>
    (change.direction.toList.map fun direction =>
        ⟨.ttlAdjustments, [direction.name, tier.name], none⟩) ++
      [⟨.adaptiveTtl, ["global", tier.name], some change.ttl.toSeconds⟩,
        ⟨.duplicateRate, ["global", tier.name], some duplicateRate⟩]
  | anomalyFound tier anomaly => [⟨.anomaliesDetected, [anomaly.kind, tier.name], none⟩]
  | tierUnknown _ | saturated _ | cleaned _ _ _ _ _ | tierChanged _ _ _ | closed _ _ _ _
  | maintained _ _ | maintenanceStopped => []

theorem length_labels_of_mem_samples {event : Event α} {sample : Sample α}
    (member : sample ∈ event.samples) : sample.labels.length = sample.metric.labels.length := by
  cases event <;> simp only [samples, List.mem_cons, List.mem_append, List.mem_map,
    List.not_mem_nil, or_false] at member
  all_goals grind [Metric.labels]

end Event

/-- The metrics after some events. -/
def Metrics.afterEvents {α : Type} [Scalar α] (m : Metrics α) (events : List (Event α)) :
    Metrics α :=
  (events.flatMap Event.samples).foldl apply m

end GossipGate
