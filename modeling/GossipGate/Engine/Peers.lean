import GossipGate.Engine

namespace GossipGate

namespace Engine

variable {α : Type} [Scalar α]

/-- The record of a peer, a new one where there is none. A new peer that a network trusts starts
with full trust. -/
def peerRecord (e : Engine α) (peer : String) (now : Nat) : Peer α :=
  match e.peers.get? peer with
  | some known => known
  | none =>
    let unknown := Peer.fresh peer now
    if e.networks.trusts peer then { unknown with trust := .trusted } else unknown

/-- Counts one message of a peer, where peers are tracked, and tells the record after that. -/
def meet (e : Engine α) (peer : String) (now : Nat) : Engine α × Option (Peer α) :=
  if e.profile.peerTracking && !peer.isEmpty then
    let record := (e.peerRecord peer now).recordActivity now
    ({ e with peers := e.peers.insert peer record }, some record)
  else (e, none)

/-- Activity of a peer other than a message to decide on. -/
def trackPeer (e : Engine α) (peer : String) (now : Nat) : Engine α := (e.meet peer now).1

/-- Folds the outcome of a message into the record of its peer. -/
def judge (e : Engine α) (peer : String) (duplicate : Bool) : Engine α × List (Event α) :=
  match e.peers.get? peer with
  | none => (e, [])
  | some record =>
    let settled := record.settle duplicate e.tuning.learningRate
    let score := settled.1.score
    ({ e with peers := e.peers.insert peer settled.1 },
      .scored e.tier peer score ::
        if settled.2 then [.blacklisted e.tier peer score settled.1.duplicateRate] else [])

end Engine

end GossipGate
