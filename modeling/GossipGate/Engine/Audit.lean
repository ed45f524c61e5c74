import GossipGate.Engine

namespace GossipGate

/-- A rule that a state breaks. -/
inductive Violation where
  | ttlOutOfBounds | overCapacity | entryOutOfRange | reputationOutOfRange
  deriving DecidableEq, Repr

def Violation.name : Violation → String
  | ttlOutOfBounds => "TtlOutOfBounds"
  | overCapacity => "OverCapacity"
  | entryOutOfRange => "EntryOutOfRange"
  | reputationOutOfRange => "ReputationOutOfRange"

namespace Engine

variable {α : Type} [Scalar α]

def fits (size capacity : Nat) : Bool := size ≤ capacity

/-- The first rule that the state breaks, if there is one. -/
def violation? (e : Engine α) : Option Violation :=
  let bounds := e.tuning.window.toTtlBounds
  if !bounds.contains e.globalTtl || !e.traffic.values.all (fun t => bounds.contains t.ttl) then
    some .ttlOutOfBounds
  else if !fits e.store.size e.store.capacity || !fits e.store.counted e.store.capacity then
    some .overCapacity
  else if !e.store.entries.all Entry.inRange then some .entryOutOfRange
  else if !e.peers.values.all Peer.inRange then some .reputationOutOfRange
  else none

end Engine

end GossipGate
