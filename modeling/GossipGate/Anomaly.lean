import GossipGate.Peer

namespace GossipGate

/-- A suspicious pattern; it is reported and changes nothing. -/
inductive Anomaly (α : Type) where
  | peerFlooding (peer : String) (gap : Nat) (duplicateRate : α)
  | velocitySpike (messageType : String) (velocity mean : α)

namespace Anomaly

variable {α : Type} [Scalar α]

def kind : Anomaly α → String
  | peerFlooding _ _ _ => "peer_flooding"
  | velocitySpike _ _ _ => "velocity_spike"

/-- Messages less than 100 ms apart from a peer that mostly sends duplicates. -/
def flooding? (p : Peer α) : Option (Anomaly α) :=
  match p.gap? with
  | some gap =>
    if gap < 100 ∧ 0.5 < p.duplicateRate then some (peerFlooding p.id gap p.duplicateRate)
    else none
  | none => none

/-- The mean of the numbers above zero. -/
def meanPositive? (velocities : List α) : Option α :=
  let positive := velocities.filter fun v => 0.0 < v
  if positive.isEmpty then none
  else some (positive.foldl (· + ·) 0.0 / Scalar.ofNat positive.length)

/-- A velocity above `threshold` times the mean of all velocities above zero. -/
def spike? (messageType : String) (velocity : α) (all : List α) (threshold : α) :
    Option (Anomaly α) :=
  if velocity ≤ 0.0 then none
  else
    match meanPositive? all with
    | some mean =>
      if mean * threshold < velocity then some (velocitySpike messageType velocity mean) else none
    | none => none

end Anomaly

end GossipGate
