import GossipGate.Duration
import GossipGate.Json.Record
import GossipGate.Trust

namespace GossipGate

/-- What is known about one peer. Clock readings are in milliseconds. -/
structure Peer (α : Type) where
  id : String
  messages : Nat
  duplicates : Nat
  duplicateRate : α
  score : α
  trust : Trust
  blacklisted : Bool
  blacklistReason : Option String
  lastActivity : Nat
  previousActivity : Option Nat

namespace Peer

variable {α : Type} [Scalar α]

/-- A peer without history has the full score. -/
def fresh (id : String) (now : Nat) : Peer α :=
  { id, messages := 0, duplicates := 0, duplicateRate := 0.0, score := 1.0, trust := .medium,
    blacklisted := false, blacklistReason := none, lastActivity := now, previousActivity := none }

/-- Counts one message of the peer. -/
def recordActivity (p : Peer α) (now : Nat) : Peer α :=
  { p with
    previousActivity := if 0 < p.messages then some p.lastActivity else p.previousActivity
    messages := p.messages + 1
    lastActivity := now
    duplicateRate := Scalar.share p.duplicates (p.messages + 1) }

/-- The score a peer is drawn to: a duplicate costs more the more of them it sends. -/
def targetScore (score duplicateRate : α) (duplicate : Bool) : α :=
  if duplicate then score - 0.1 * (1.0 + duplicateRate) else score + 0.02

def nextScore (score duplicateRate rate : α) (duplicate : Bool) : α :=
  Scalar.clamp 0.0 1.0 (Scalar.blend score (targetScore score duplicateRate duplicate) rate)

/-- A low score, mostly duplicates and more than 50 messages. -/
def isFlooder (p : Peer α) : Bool :=
  p.score < 0.1 && 0.8 < p.duplicateRate && 50 < p.messages

def blacklistText : String := "High duplicate rate with low reputation"

/-- The record after one outcome, before the blacklist is considered. -/
def scored (p : Peer α) (duplicate : Bool) (rate : α) : Peer α :=
  let duplicates := if duplicate then p.duplicates + 1 else p.duplicates
  let duplicateRate := Scalar.share duplicates p.messages
  let score := nextScore p.score duplicateRate rate duplicate
  { p with duplicates, duplicateRate, score, trust := .ofScore score }

/-- Folds one outcome into the record. A flooder is blacklisted for good; the second part tells
whether that happened just now. -/
def settle (p : Peer α) (duplicate : Bool) (rate : α) : Peer α × Bool :=
  let next := p.scored duplicate rate
  if !next.blacklisted && next.isFlooder then
    ({ next with blacklisted := true, blacklistReason := some blacklistText }, true)
  else (next, false)

/-- Milliseconds between the latest message and the one before it. -/
def gap? (p : Peer α) : Option Nat :=
  p.previousActivity.map fun previous => p.lastActivity - previous

def isIdle (p : Peer α) (now : Nat) (window : Duration) : Bool :=
  window.millisWord < now - p.lastActivity

def inRange (p : Peer α) : Bool := 0.0 ≤ p.score && p.score ≤ 1.0

def toJson (p : Peer Float) : Json :=
  .object [("peer_id", .text p.id), ("total_messages", .nat p.messages),
    ("duplicate_count", .nat p.duplicates), ("duplicate_rate", .float p.duplicateRate),
    ("reputation_score", .float p.score), ("trust_level", p.trust.toJson),
    ("is_blacklisted", .bool p.blacklisted),
    ("blacklist_reason", .optional .text p.blacklistReason),
    ("last_activity", .nat p.lastActivity)]

open RecordReader in
/-- The activity before the latest message is not written, so it is absent after reading. -/
def reader : RecordReader (Peer Float) :=
  Peer.mk <$> required "peer_id" (.plain Json.text?)
    <*> required "total_messages" (.plain (Json.nat? UInt64.size))
    <*> required "duplicate_count" (.plain (Json.nat? UInt64.size))
    <*> required "duplicate_rate" (.plain Json.float?)
    <*> required "reputation_score" (.plain Json.float?)
    <*> required "trust_level" Trust.ofJson
    <*> required "is_blacklisted" (.plain Json.bool?)
    <*> optional "blacklist_reason" (.plain Json.text?)
    <*> required "last_activity" (.plain (Json.nat? UInt64.size))
    <*> pure none

def ofJson : JsonReader (Peer Float) := reader.read

end Peer

end GossipGate
