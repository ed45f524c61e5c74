import GossipGate.Store

namespace GossipGate

/-- The pairs of a store as one list, the oldest insertion first, with its capacity and the number
that the next insertion takes. -/
structure Ledger (α : Type) where
  items : List (Key × Entry α)
  capacity : Nat
  nextSeq : Nat

/-- What can be asked of a store. -/
inductive StoreCall (α : Type) where
  | insert (key : Key) (entry : Entry α)
  | evictOldest
  | evictLowest (score : Entry α → α)
  | retain (keep : Entry α → Bool)
  | setCapacity (capacity : Nat)
  | get (key : Key)
  | contains (key : Key)

/-- What a store answers. An entry for which there is no room is handed back. -/
inductive StoreAnswer (α : Type) where
  | stored
  | full (entry : Entry α)
  | evicted (victim : Option (Entry α))
  | removed (count : Nat)
  | found (entry : Option (Entry α))
  | present (isPresent : Bool)
  | done

variable {α : Type} [Scalar α]

/-- The earliest pair of a list whose score is minimal. -/
def earliestLowest? (score : Entry α → α) (items : List (Key × Entry α)) : Option (Key × Entry α) :=
  items.find? fun item => items.all fun other => !(score other.2 < score item.2 : Bool)

def Store.answer (s : Store α) : StoreCall α → StoreAnswer α × Store α
  | .insert key entry =>
    match s.insert? key entry with
    | some stored => (.stored, stored)
    | none => (.full entry, s)
  | .evictOldest => (.evicted s.evictOldest.victim, s.evictOldest.left)
  | .evictLowest score => (.evicted (s.evictLowest score).victim, (s.evictLowest score).left)
  | .retain keep => (.removed (s.retain keep).2, (s.retain keep).1)
  | .setCapacity capacity => (.done, s.setCapacity capacity)
  | .get key => (.found (s.get? key), s)
  | .contains key => (.present (s.contains key), s)

namespace Ledger

def empty (capacity : Nat) : Ledger α := ⟨[], capacity, 0⟩

def get? (l : Ledger α) (key : Key) : Option (Entry α) := l.items.lookup key

/-- The ledger without one pair. -/
def drop (l : Ledger α) (item : Key × Entry α) : Ledger α :=
  { l with items := l.items.filter fun other => other.1 ≠ item.1 }

/-- The plain behaviour of a store: append, take the head, take the earliest of minimal score,
filter. -/
def answer (l : Ledger α) : StoreCall α → StoreAnswer α × Ledger α
  | .insert key entry =>
    if l.items.length < l.capacity then
      (.stored, { l with
        items := l.items ++ [(key, { entry with seq := l.nextSeq })], nextSeq := l.nextSeq + 1 })
    else (.full entry, l)
  | .evictOldest => (.evicted (l.items.head?.map Prod.snd), { l with items := l.items.tail })
  | .evictLowest score =>
    match earliestLowest? score l.items with
    | some item => (.evicted (some item.2), l.drop item)
    | none => (.evicted none, l)
  | .retain keep =>
    let kept := l.items.filter fun item => keep item.2
    (.removed (l.items.length - kept.length), { l with items := kept })
  | .setCapacity capacity => (.done, { l with capacity })
  | .get key => (.found (l.get? key), l)
  | .contains key => (.present (l.get? key).isSome, l)

end Ledger

end GossipGate
