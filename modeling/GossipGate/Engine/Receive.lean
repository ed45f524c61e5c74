import GossipGate.Engine.Adjustment
import GossipGate.Engine.Admission
import GossipGate.Engine.Peers

namespace GossipGate

/-- A message after the bookkeeping that every message causes: the state, the record of its peer
where peers are scored, and the record of its type. -/
structure Arrival (α : Type) where
  engine : Engine α
  scorer : Option (Peer α)
  traffic : Traffic α
  events : List (Event α)

def Arrival.isBlocked {α : Type} (a : Arrival α) : Bool := a.scorer.any Peer.blacklisted

namespace Engine

variable {α : Type} [Scalar α]

/-- The record of a type of message, a new one with the global TTL where there is none. -/
def trafficRecord (e : Engine α) (messageType : String) : Traffic α :=
  (e.traffic.get? messageType).getD (.fresh e.globalTtl)

/-- Counts a message for its type. A blocked one counts as a duplicate and tells nothing about the
velocity of the type. -/
def measure (e : Engine α) (now : Nat) (m : Message) (blocked : Bool) :
    Except Fault (Traffic α × Option α) :=
  let rate := e.tuning.learningRate
  let counted := (e.trafficRecord m.messageType).countSeen.recordSize m.metadata.bytes rate
  if blocked then .ok (counted.countDuplicate, none) else counted.arrive now rate

/-- The bookkeeping before the decision. -/
def arrive (e : Engine α) (now : Nat) (m : Message) : Except Fault (Arrival α) := do
  let met := { e with seen := e.seen + 1 }.meet m.peer now
  let scorer := if e.profile.reputationScoring then met.2 else none
  let measured ← met.1.measure now m (scorer.any Peer.blacklisted)
  return {
    engine := { met.1 with traffic := met.1.traffic.insert m.messageType measured.1 }
    scorer
    traffic := measured.1
    events := measured.2.toList.map (.velocityMeasured e.tier m.messageType) }

/-- The sighting of a message that is not blocked. -/
def sighting (e : Engine α) (a : Arrival α) (m : Message) : Sighting α :=
  { key := .build e.profile m.hash m.messageType m.peer m.network
    message := m
    ttl := e.ttlFor a.traffic m.messageType m.network
    confidence :=
      if e.profile.confidenceScoring then
        Confidence.initial m.hash m.messageType (a.scorer.map Peer.score) m.metadata.bytes
      else 1.0
    priority :=
      entryPriority e.profile m.messageType (a.scorer.map Peer.trust) m.metadata.priority }

/-- A message of a blacklisted peer is suppressed before the store is asked. -/
def block (a : Arrival α) (m : Message) : Reply α Bool :=
  { engine := { a.engine with duplicates := a.engine.duplicates + 1 }
    value := true
    events := a.events ++ [.suppressed a.engine.tier m.messageType .blacklisted] }

/-- The outcome of a message counts for its peer, where that is scored. -/
def judgeCaller (e : Engine α) (a : Arrival α) (m : Message) (duplicate : Bool) :
    Engine α × List (Event α) :=
  if a.scorer.isSome then e.judge m.peer duplicate else (e, [])

/-- A live duplicate is suppressed and counted. -/
def suppress (e : Engine α) (a : Arrival α) (m : Message) : Reply α Bool :=
  let counted :=
    { e with
      duplicates := e.duplicates + 1
      traffic := e.traffic.modify m.messageType Traffic.countDuplicate }
  let judged := counted.judgeCaller a m true
  ⟨judged.1, true, judged.2 ++ [.suppressed e.tier m.messageType .duplicate]⟩

/-- Suspicious patterns of the sender and of the type of a message. -/
def anomalies (e : Engine α) (m : Message) : List (Anomaly α) :=
  if e.profile.anomalyDetection then
    let flooding := if m.peer.isEmpty then none else (e.peers.get? m.peer).bind Anomaly.flooding?
    let spike := (e.traffic.get? m.messageType).bind fun t =>
      Anomaly.spike? m.messageType t.velocity (e.traffic.values.map Traffic.velocity)
        e.tuning.anomalyThreshold
    flooding.toList ++ spike.toList
  else []

/-- Lets a message through. An insertion counts for its peer, then the TTL is adjusted where that
is due. -/
def pass (e : Engine α) (now : Nat) (a : Arrival α) (m : Message) (outcome : Outcome) :
    Except Fault (Reply α Bool) := do
  let judged := if outcome = .inserted then e.judgeCaller a m false else (e, [])
  let untracked := if outcome = .dropped then [Event.saturated m.messageType] else []
  let adjusted ← judged.1.adjustIfDue now
  let found := (adjusted.1.anomalies m).map (Event.anomalyFound e.tier)
  return ⟨adjusted.1, false, judged.2 ++ untracked ++ adjusted.2 ++ found⟩

/-- Looks a message that is not blocked up in the store. -/
def lookUp (now : Nat) (a : Arrival α) (m : Message) : Admission α :=
  a.engine.track now (a.engine.sighting a m) maxAttempts a.engine.store

/-- Decides on a message that is not blocked. -/
def resolve (now : Nat) (a : Arrival α) (m : Message) : Except Fault (Reply α Bool) := do
  let e := a.engine
  let admission := lookUp now a m
  let admitted := { e with store := admission.store }
  let evictions := admission.evicted.map (Event.evicted e.tier (.ofProfile e.profile))
  let reply ←
    if admission.outcome = .duplicate then .ok (admitted.suppress a m)
    else admitted.pass now a m admission.outcome
  return { reply with events := a.events ++ evictions ++ reply.events }

/-- Decides whether a message is suppressed. An empty hash identifies nothing: such a message
passes and leaves no trace. -/
def receive (e : Engine α) (now : Nat) (m : Message) : Except Fault (Reply α Bool) :=
  if m.hash.isEmpty then .ok ⟨e, false, []⟩
  else do
    let a ← e.arrive now m
    if a.isBlocked then return block a m else resolve now a m

end Engine

end GossipGate
