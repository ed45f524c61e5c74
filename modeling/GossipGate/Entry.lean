import GossipGate.Duration
import GossipGate.Key
import GossipGate.Metadata

namespace GossipGate

/-- A tracked message. Clock readings are in milliseconds; `seq` counts insertions into the store;
the peer is empty where the caller named none. -/
structure Entry (α : Type) where
  hash : String
  messageType : String
  peer : String
  network : String
  source : Option String
  firstSeen : Nat
  lastSeen : Nat
  seenCount : Nat
  confidence : α
  priority : Nat
  size : Nat
  properties : Table String Json
  seq : Nat

namespace Entry

variable {α : Type} [Scalar α]

/-- Whether a span of time since the last sighting is still within the TTL. -/
def isLive (e : Entry α) (now : Nat) (ttl : Duration) : Bool := now - e.lastSeen ≤ ttl.millisWord

/-- Another sighting within the TTL. -/
def touch (e : Entry α) (now : Nat) : Entry α :=
  { e with lastSeen := now, seenCount := e.seenCount + 1 }

/-- A sighting after the TTL starts the count anew. -/
def restart (e : Entry α) (now : Nat) (confidence : α) : Entry α :=
  { e with lastSeen := now, seenCount := 1, confidence }

/-- Hours since the last sighting. -/
def ageHours (e : Entry α) (now : Nat) : α := Scalar.ofNat (now - e.lastSeen) / 3600000.0

def hasPeer (e : Entry α) : Bool := !e.peer.isEmpty

/-- Confidence lies in [0.1, 1] and priority in [1, 15]. -/
def inRange (e : Entry α) : Bool :=
  0.1 ≤ e.confidence && e.confidence ≤ 1.0 && 1 ≤ e.priority && e.priority ≤ 15

end Entry

end GossipGate
