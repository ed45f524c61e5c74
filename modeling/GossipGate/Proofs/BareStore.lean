import GossipGate.Proofs.MappedStore

namespace GossipGate

variable {α : Type}

/-- What is left of an entry without what only the sender and its metadata tell. -/
def Entry.bare (entry : Entry α) : Entry α :=
  { entry with peer := "", source := some entry.network, size := 0, properties := .empty }

theorem Entry.unnumbered_bare : Entry.Unnumbered (Entry.bare : Entry α → Entry α) := fun _ _ => rfl

def Shard.bare (s : Shard α) : Shard α :=
  { s with entries := s.entries.mapValues fun _ => Entry.bare }

namespace Store

variable {s t : Store α}

def bare (s : Store α) : Store α := { s with shards := s.shards.map Shard.bare }

theorem bare_empty (shards capacity : Nat) (place : Key → Nat) :
    (empty shards capacity place : Store α).bare = empty shards capacity place :=
  mapEntries_empty shards capacity place

theorem get?_bare (s : Store α) (key : Key) : s.bare.get? key = (s.get? key).map Entry.bare :=
  s.get?_mapEntries key

theorem retain_bare {keep keepBare : Entry α → Bool}
    (same : ∀ entry, keepBare entry.bare = keep entry) (s : Store α) :
    s.bare.retain keepBare = ((s.retain keep).1.bare, (s.retain keep).2) :=
  retain_mapEntries Entry.unnumbered_bare same s

theorem Reordered.bare (reordered : s.Reordered t) : s.bare.Reordered t.bare :=
  reordered.mapEntries

theorem Reordered.trans {u : Store α} (first : s.Reordered t) (second : t.Reordered u) :
    s.Reordered u where
  place := second.place.trans first.place
  size := second.size.trans first.size
  capacity := second.capacity.trans first.capacity
  nextSeq := second.nextSeq.trans first.nextSeq
  length := second.length.trans first.length
  records := by
    intro index before after left right
    obtain ⟨between, middle, _⟩ := second.shard right
    exact (second.records index between after middle right).trans
      (first.records index before between left middle)
  tables := by
    intro index before after left right
    obtain ⟨between, middle, _⟩ := second.shard right
    exact (first.tables index before between left middle).trans
      (second.tables index between after middle right)

end Store

def Eviction.bare (eviction : Eviction α) : Eviction α :=
  ⟨eviction.victim.map Entry.bare, eviction.left.bare⟩

theorem Store.evictOldest_bare (s : Store α) : s.bare.evictOldest = s.evictOldest.bare :=
  s.evictOldest_mapEntries

end GossipGate
