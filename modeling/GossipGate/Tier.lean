import GossipGate.Duration
import GossipGate.Json.Record
import GossipGate.Text.Blank

namespace GossipGate

/-- The service level; it decides capacity, initial TTL, shards and features. -/
inductive Tier where
  | free | business | enterprise
  deriving DecidableEq, Repr

namespace Tier

def name : Tier → String
  | free => "FREE"
  | business => "BUSINESS"
  | enterprise => "ENTERPRISE"

def capacity : Tier → Nat
  | free => 4096
  | business => 16384
  | enterprise => 32768

def baseTtl : Tier → Duration
  | free => .ofMinutes 5
  | business => .ofMinutes 10
  | enterprise => .ofMinutes 15

def shards : Tier → Nat
  | free => 16
  | business => 32
  | enterprise => 64

def ofName? : String → Option Tier
  | "FREE" => some free
  | "BUSINESS" => some business
  | "ENTERPRISE" => some enterprise
  | _ => none

/-- Reads a tier without regard to ASCII case and to blanks around it. -/
def read? (s : String) : Option Tier := ofName? (upperAscii (trimBlank s))

/-- The tier a text asks for; an unknown one is served as FREE. -/
def serving (s : String) : Tier := (read? s).getD free

def toJson (tier : Tier) : Json := .text tier.name

def ofJson : JsonReader Tier := .plain (Json.name? ofName?)

theorem ofName?_name (tier : Tier) : ofName? tier.name = some tier := by
  cases tier <;> rfl

end Tier

/-- The features in force. -/
structure Profile where
  tier : Tier
  peerTracking : Bool
  crossNetwork : Bool
  reputationScoring : Bool
  priorityQueuing : Bool
  adaptiveLearning : Bool
  confidenceScoring : Bool
  anomalyDetection : Bool
  deriving DecidableEq, Repr

namespace Profile

/-- Paid tiers know peers; ENTERPRISE alone learns, queues by priority, watches for anomalies and
identifies a message across networks. -/
def ofTier (tier : Tier) : Profile :=
  let paid := tier = .business ∨ tier = .enterprise
  let enterprise := tier = .enterprise
  { tier
    peerTracking := paid
    crossNetwork := enterprise
    reputationScoring := paid
    priorityQueuing := enterprise
    adaptiveLearning := enterprise
    confidenceScoring := paid
    anomalyDetection := enterprise }

def toJson (p : Profile) : Json :=
  .object [("tier", p.tier.toJson), ("peer_tracking", .bool p.peerTracking),
    ("cross_network_dedup", .bool p.crossNetwork),
    ("reputation_scoring", .bool p.reputationScoring),
    ("priority_queuing", .bool p.priorityQueuing),
    ("adaptive_learning", .bool p.adaptiveLearning),
    ("confidence_scoring", .bool p.confidenceScoring),
    ("anomaly_detection", .bool p.anomalyDetection)]

open RecordReader in
def reader : RecordReader Profile :=
  Profile.mk <$> required "tier" Tier.ofJson
    <*> required "peer_tracking" (.plain Json.bool?)
    <*> required "cross_network_dedup" (.plain Json.bool?)
    <*> required "reputation_scoring" (.plain Json.bool?)
    <*> required "priority_queuing" (.plain Json.bool?)
    <*> required "adaptive_learning" (.plain Json.bool?)
    <*> required "confidence_scoring" (.plain Json.bool?)
    <*> required "anomaly_detection" (.plain Json.bool?)

def ofJson : JsonReader Profile := reader.read

end Profile

end GossipGate
