import GossipGate.Entry

namespace GossipGate

/-- One part of a store: its entries by key, and a record of every insertion in order, as the
sequence number and the key. -/
structure Shard (α : Type) where
  entries : Table Key (Entry α)
  order : List (Nat × Key)

namespace Shard

variable {α : Type}

def empty : Shard α := ⟨.empty, []⟩

instance : Inhabited (Shard α) := ⟨empty⟩

def get? (s : Shard α) (key : Key) : Option (Entry α) := s.entries.get? key

def size (s : Shard α) : Nat := s.entries.size

/-- The sequence number of the oldest record. -/
def oldest? (s : Shard α) : Option Nat := s.order.head?.map Prod.fst

/-- Stores an entry under a key. An entry that was there is replaced; its record stays. -/
def insert (s : Shard α) (key : Key) (entry : Entry α) : Shard α :=
  ⟨s.entries.insert key entry, s.order ++ [(entry.seq, key)]⟩

def modify (s : Shard α) (key : Key) (f : Entry α → Entry α) : Shard α :=
  { s with entries := s.entries.modify key f }

/-- Removes the entry of a key together with its record. -/
def erase (s : Shard α) (key : Key) : Shard α :=
  match s.get? key with
  | some entry => ⟨s.entries.erase key, s.order.filter fun record => record.1 ≠ entry.seq⟩
  | none => s

/-- Takes the oldest record away and the entry under its key, if there is one. -/
def popOldest (s : Shard α) : Option (Entry α) × Shard α :=
  match s.order with
  | [] => (none, s)
  | (_, key) :: rest => (s.get? key, ⟨s.entries.erase key, rest⟩)

/-- Keeps the entries that pass a test; the records of the others go with them. -/
def retain (s : Shard α) (keep : Entry α → Bool) : Shard α :=
  let removed := s.entries.values.filter fun entry => !keep entry
  ⟨s.entries.filter fun _ entry => keep entry,
    s.order.filter fun record => !removed.any fun entry => entry.seq == record.1⟩

end Shard

end GossipGate
