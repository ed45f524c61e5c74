import GossipGate.Config.Problem
import GossipGate.Event
import GossipGate.Peer
import GossipGate.Store
import GossipGate.Traffic

namespace GossipGate

/-- One message as it comes from the network. The peer is empty where it is not known. -/
structure Message where
  hash : String
  messageType : String
  peer : String
  metadata : Metadata

def Message.network (m : Message) : String := m.metadata.network

/-- The settings that stay as they are while a gate is open. -/
structure Tuning (α : Type) where
  window : TtlWindow
  adjustEvery : Nat
  learningRate : α
  confidenceThreshold : α
  anomalyThreshold : α
  reputationDecay : Duration

/-- The state of a gate. `seen` and `duplicates` are halved by each TTL adjustment; the global TTL,
the adjustment interval and clock readings are in milliseconds. -/
structure Engine (α : Type) where
  profile : Profile
  store : Store α
  traffic : Table String (Traffic α)
  peers : Table String (Peer α)
  seen : Nat
  duplicates : Nat
  ttlMillis : Nat
  lastAdjust : Nat
  tuning : Tuning α
  networks : Networks
  closed : Bool

/-- What an operation answers, the state it leaves and the events on the way. -/
structure Reply (α β : Type) where
  engine : Engine α
  value : β
  events : List (Event α)

def Reply.map {α β γ : Type} (f : β → γ) (r : Reply α β) : Reply α γ :=
  ⟨r.engine, f r.value, r.events⟩

namespace Engine

variable {α : Type} [Scalar α]

def tier (e : Engine α) : Tier := e.profile.tier

def globalTtl (e : Engine α) : Duration := .ofMillis e.ttlMillis

/-- A gate with some settings whose TTL bounds are the right way round. -/
def assemble (c : Config α) (ordered : c.minTtl ≤ c.maxTtl) (now : Nat) : Reply α Unit :=
  let window : TtlWindow := { c.bounds with min_le_max := ordered }
  let baseTtl := window.nearest c.effectiveBaseTtl
  let profile := Profile.ofTier c.tier
  let store := Store.empty c.effectiveShards c.effectiveCapacity Key.fingerprint
  { engine :=
      { profile, store, traffic := .empty, peers := .empty, seen := 0, duplicates := 0
        ttlMillis := baseTtl.millisWord, lastAdjust := now
        tuning :=
          { window, adjustEvery := c.adjustEvery.millisWord, learningRate := c.learningRate
            confidenceThreshold := c.confidenceThreshold, anomalyThreshold := c.anomalyThreshold
            reputationDecay := c.reputationDecay }
        networks := c.networks.foldl Networks.register .wellKnown, closed := false }
    value := ()
    events := [.started profile c.effectiveCapacity baseTtl store.shards.length] }

/-- A gate with checked settings. -/
def start (c : Config α) (now : Nat) : Except ConfigProblem (Reply α Unit) :=
  match usable : c.problem? with
  | some problem => .error problem
  | none => .ok (assemble c (Config.minTtl_le_maxTtl usable) now)

/-- A gate with the settings of a tier; an unknown tier is served as FREE. -/
def startTier (requested : String) (now : Nat) : Reply α Unit :=
  let reply := assemble (Config.ofTier (.serving requested))
    (Config.minTtl_le_maxTtl_ofTier (.serving requested)) now
  { reply with events := Event.ofTierRequest requested ++ reply.events }

/-- The TTL in force for a type of message on a network. What was learned for the type wins; before
that a priority message takes the TTL of its network. -/
def ttlFor (e : Engine α) (t : Traffic α) (messageType network : String) : Duration :=
  if t.adapted then t.ttl
  else
    match e.networks.priorityTtl? network messageType with
    | some ttl => e.tuning.window.nearest ttl
    | none => t.ttl

/-- The score of the peer that brought an entry in, where peers are scored and it is still known. -/
def ownerScore? (e : Engine α) (entry : Entry α) : Option α :=
  if e.profile.reputationScoring && entry.hasPeer then (e.peers.get? entry.peer).map Peer.score
  else none

end Engine

end GossipGate
