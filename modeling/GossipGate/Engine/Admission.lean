import GossipGate.Confidence
import GossipGate.Engine

namespace GossipGate

/-- A message on its way into the store. -/
structure Sighting (α : Type) where
  key : Key
  message : Message
  ttl : Duration
  confidence : α
  priority : Nat

/-- What the store made of a message: a live entry was there, an expired one starts anew, a new one
was stored, or no room could be made. -/
inductive Outcome where
  | duplicate | refreshed | inserted | dropped
  deriving DecidableEq, Repr

/-- The store after a sighting, with the entries evicted on the way. -/
structure Admission (α : Type) where
  store : Store α
  outcome : Outcome
  evicted : List (Entry α)

namespace Sighting

variable {α : Type}

/-- The entry of a first sighting. -/
def entry (s : Sighting α) (now : Nat) : Entry α :=
  { hash := s.message.hash, messageType := s.message.messageType, peer := s.message.peer
    network := s.message.network, source := s.message.metadata.source
    firstSeen := now, lastSeen := now, seenCount := 1, confidence := s.confidence
    priority := s.priority, size := s.message.metadata.bytes
    properties := s.message.metadata.properties, seq := 0 }

end Sighting

namespace Engine

variable {α : Type} [Scalar α]

/-- Evicts one entry by the policy of the profile. -/
def evictOne (e : Engine α) (now : Nat) (store : Store α) : Eviction α :=
  match EvictionPolicy.ofProfile e.profile with
  | .fifo => store.evictOldest
  | .priority =>
    store.evictLowest fun entry => entry.retention e.profile (e.ownerScore? entry) now

/-- Evicts a number of entries, as long as there are any. -/
def evictMany (e : Engine α) (now : Nat) : Nat → Store α → Store α × List (Entry α)
  | 0, store => (store, [])
  | more + 1, store =>
    let eviction := e.evictOne now store
    match eviction.victim with
    | some victim =>
      let later := e.evictMany now more eviction.left
      (later.1, victim :: later.2)
    | none => (eviction.left, [])

/-- Evicts down to the capacity. -/
def shrink (e : Engine α) (now : Nat) (store : Store α) : Store α × List (Entry α) :=
  e.evictMany now (store.size - store.capacity) store

/-- A live entry seen again. Its confidence follows the peer that brought it in, whoever sends the
message now. -/
def sightAgain (e : Engine α) (now : Nat) (entry : Entry α) : Entry α :=
  let touched := entry.touch now
  if e.profile.confidenceScoring then
    { touched with
      confidence := Confidence.updated touched.confidence touched.seenCount
        (now - touched.firstSeen) (e.ownerScore? entry) }
  else touched

/-- Looks a message up and stores it where it is new, evicting where there is no room. At most
`attempts` insertions are tried. -/
def track (e : Engine α) (now : Nat) (s : Sighting α) : Nat → Store α → Admission α
  | 0, store => ⟨store, .dropped, []⟩
  | attempts + 1, store =>
    match store.get? s.key with
    | some entry =>
      if entry.isLive now s.ttl then ⟨store.modify s.key (e.sightAgain now), .duplicate, []⟩
      else ⟨store.modify s.key fun old => old.restart now s.confidence, .refreshed, []⟩
    | none =>
      match store.insert? s.key (s.entry now) with
      | some stored => ⟨stored, .inserted, []⟩
      | none =>
        let eviction := e.evictOne now store
        let later := e.track now s attempts eviction.left
        { later with evicted := eviction.victim.toList ++ later.evicted }

/-- How many insertions are tried before a message is let through untracked. -/
def maxAttempts : Nat := 8

end Engine

end GossipGate
