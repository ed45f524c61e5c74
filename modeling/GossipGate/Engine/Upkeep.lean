import GossipGate.Engine.Admission

namespace GossipGate

/-- How much one cleanup removed. -/
structure CleanupCounts where
  entries : Nat
  peers : Nat
  deriving DecidableEq, Repr

def CleanupCounts.isZero (c : CleanupCounts) : Bool := c.entries == 0 && c.peers == 0

namespace Engine

variable {α : Type} [Scalar α]

/-- The TTL of an entry before any cut, by its own type and network. -/
def entryTtl (e : Engine α) (entry : Entry α) : Duration :=
  match e.traffic.get? entry.messageType with
  | some t => e.ttlFor t entry.messageType entry.network
  | none => e.globalTtl

/-- How long an entry is kept, in milliseconds. Confidence below the threshold cuts it, and so does
an owner's score below 0.3. -/
def retentionMillis (e : Engine α) (entry : Entry α) : α :=
  let full : α := Scalar.ofNat (e.entryTtl entry).millis
  let trusted :=
    if e.profile.confidenceScoring && entry.confidence < e.tuning.confidenceThreshold then
      full * entry.confidence
    else full
  match e.ownerScore? entry with
  | some score => if score < 0.3 then trusted * score else trusted
  | none => trusted

def isKept (e : Engine α) (now : Nat) (entry : Entry α) : Bool :=
  Scalar.ofNat (now - entry.lastSeen) ≤ e.retentionMillis entry

/-- Removes entries whose time is over and records of idle peers. -/
def cleanup (e : Engine α) (now : Nat) : Reply α CleanupCounts :=
  let kept := e.store.retain (e.isKept now)
  let peers := e.peers.filter fun _ peer => !peer.isIdle now e.tuning.reputationDecay
  let counts : CleanupCounts := ⟨kept.2, e.peers.size - peers.size⟩
  { engine := { e with store := kept.1, peers }
    value := counts
    events :=
      if counts.isZero then []
      else [.cleaned e.tier counts.entries kept.1.size counts.peers peers.size] }

/-- Changes to the features and the capacity of a tier, evicting what no longer fits. An unknown
tier is served as FREE; the shards stay. -/
def setTier (e : Engine α) (now : Nat) (requested : String) : Reply α Unit :=
  let tier := Tier.serving requested
  let changed := { e with profile := .ofTier tier }
  let shrunk := changed.shrink now (e.store.setCapacity tier.capacity)
  { engine := { changed with store := shrunk.1 }
    value := ()
    events := Event.ofTierRequest requested ++
      shrunk.2.map (.evicted tier (.ofProfile changed.profile)) ++
      [.tierChanged e.tier tier tier.capacity] }

/-- Ends the life of a gate. Later calls are still answered. -/
def close (e : Engine α) : Reply α Unit :=
  { engine := { e with closed := true }
    value := ()
    events := if e.closed then [] else [.closed e.tier e.seen e.duplicates e.peers.size] }

end Engine

end GossipGate
