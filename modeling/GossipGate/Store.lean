import GossipGate.Scalar
import GossipGate.Store.Shard

namespace GossipGate

/-- What is left of a leader after more candidates, each of which takes over where it comes before
the leader of its time. -/
def leader {β : Type} (before : β → β → Bool) : β → List β → β
  | best, [] => best
  | best, candidate :: rest => leader before (if before candidate best then candidate else best) rest

/-- The earliest of the candidates that no other comes before. -/
def leading? {β : Type} (before : β → β → Bool) : List β → Option β
  | [] => none
  | candidate :: rest => some (leader before candidate rest)

/-- Tracked entries, spread over shards by a function of the key. `size` counts the capacity in
use; every insertion takes the next sequence number. -/
structure Store (α : Type) where
  place : Key → Nat
  shards : List (Shard α)
  size : Nat
  capacity : Nat
  nextSeq : Nat

/-- What an eviction took out, if anything, and the store it left. -/
structure Eviction (α : Type) where
  victim : Option (Entry α)
  left : Store α

namespace Store

variable {α : Type}

/-- An empty store; there is always at least one shard. -/
def empty (shards capacity : Nat) (place : Key → Nat) : Store α :=
  { place, shards := List.replicate (max shards 1) .empty, size := 0, capacity, nextSeq := 0 }

def shardIndex (s : Store α) (key : Key) : Nat := s.place key % s.shards.length

theorem shardIndex_empty (shards capacity : Nat) (key : Key) :
    (empty shards capacity Key.fingerprint : Store α).shardIndex key = key.shardAmong shards := by
  simp [shardIndex, empty, Key.shardAmong]

def shard (s : Store α) (key : Key) : Shard α := (s.shards[s.shardIndex key]?).getD .empty

def get? (s : Store α) (key : Key) : Option (Entry α) := (s.shard key).get? key

def contains (s : Store α) (key : Key) : Bool := (s.get? key).isSome

def isEmpty (s : Store α) : Bool := s.size == 0

def isOver (s : Store α) : Bool := s.capacity < s.size

/-- All keys with their entries, shard by shard. -/
def toList (s : Store α) : List (Key × Entry α) :=
  s.shards.flatMap fun shard => shard.entries.entries

def entries (s : Store α) : List (Entry α) := s.toList.map Prod.snd

/-- The number of entries, counted anew. -/
def counted (s : Store α) : Nat := s.toList.length

def setCapacity (s : Store α) (capacity : Nat) : Store α := { s with capacity }

def updateShard (s : Store α) (index : Nat) (f : Shard α → Shard α) : Store α :=
  { s with shards := s.shards.modify index f }

/-- Stores an entry where the capacity allows it. Whether the key is in use already is not asked. -/
def insert? (s : Store α) (key : Key) (entry : Entry α) : Option (Store α) :=
  if s.size < s.capacity then
    let stored := s.updateShard (s.shardIndex key) fun shard =>
      shard.insert key { entry with seq := s.nextSeq }
    some { stored with size := s.size + 1, nextSeq := s.nextSeq + 1 }
  else none

def modify (s : Store α) (key : Key) (f : Entry α → Entry α) : Store α :=
  s.updateShard (s.shardIndex key) fun shard => shard.modify key f

/-- The shard whose oldest record is the oldest of all, the earlier shard in a tie. -/
def oldestShard? (s : Store α) : Option (Nat × Nat) :=
  leading? (fun a b => a.1 < b.1) (s.shards.zipIdx.filterMap fun (shard, index) =>
    shard.oldest?.map fun seq => (seq, index))

/-- Takes the oldest insertion out. -/
def evictOldest (s : Store α) : Eviction α :=
  match s.oldestShard? with
  | none => ⟨none, s⟩
  | some (_, index) =>
    let popped := ((s.shards[index]?).getD .empty).popOldest
    let size := if popped.1.isSome then s.size - 1 else s.size
    ⟨popped.1, { s with shards := s.shards.set index popped.2, size }⟩

variable [Scalar α]

/-- Whether one scored entry goes before another: the lower score, then the older insertion. -/
def goesBefore (a b : Key × Entry α × α) : Bool :=
  a.2.2 < b.2.2 || (a.2.2 == b.2.2 && a.2.1.seq < b.2.1.seq)

/-- The entry with the lowest score, the oldest of them. -/
def lowest? (s : Store α) (score : Entry α → α) : Option (Key × Entry α × α) :=
  leading? goesBefore (s.toList.map fun (key, entry) => (key, entry, score entry))

/-- Takes the entry with the lowest score out. Calls come one after another and a key lies in its own
shard only. So the entry that was found is still there, in that shard and under its number, and
needs no second look before it goes. -/
def evictLowest (s : Store α) (score : Entry α → α) : Eviction α :=
  match s.lowest? score with
  | none => ⟨none, s⟩
  | some (key, entry, _) =>
    let erased := s.updateShard (s.shardIndex key) fun shard => shard.erase key
    ⟨some entry, { erased with size := s.size - 1 }⟩

/-- Keeps the entries that pass a test; the second part counts the others. -/
def retain (s : Store α) (keep : Entry α → Bool) : Store α × Nat :=
  let removed := (s.entries.filter fun entry => !keep entry).length
  let shards := s.shards.map fun shard => shard.retain keep
  ({ s with shards, size := s.size - removed }, removed)

end Store

end GossipGate
