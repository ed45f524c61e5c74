import GossipGate.Entry
import GossipGate.Trust

namespace GossipGate

/-- How a victim is chosen: the oldest insertion, or the lowest retention score. -/
inductive EvictionPolicy where
  | fifo | priority
  deriving DecidableEq, Repr

namespace EvictionPolicy

def ofProfile (profile : Profile) : EvictionPolicy :=
  if profile.priorityQueuing then priority else fifo

def name : EvictionPolicy → String
  | fifo => "fifo"
  | priority => "priority"

end EvictionPolicy

/-- The priority of a type of message. -/
def basePriority : String → Int
  | "block" | "NewBlock" => 10
  | "transaction" | "Transactions" => 7
  | "addr" | "getaddr" => 5
  | "ping" | "pong" => 1
  | _ => 3

/-- The priority of a new entry, from 1 to 15. A request above zero replaces what type and trust
give; without priority queuing all entries have priority 1. -/
def entryPriority (profile : Profile) (messageType : String) (trust : Option Trust)
    (requested : Option UInt8) : Nat :=
  if profile.priorityQueuing then
    let earned := basePriority messageType + (trust.map Trust.priorityBonus).getD 0
    let wanted : Int := match requested with
      | some r => if 0 < r then r.toNat else earned
      | none => earned
    (max 1 (min 15 wanted)).toNat
  else 1

/-- How much an entry is worth keeping: priority first, then confidence where it is scored, the
score of its peer where that is known, and freshness. -/
def Entry.retention {α : Type} [Scalar α] (e : Entry α) (profile : Profile) (score : Option α)
    (now : Nat) : α :=
  let worth : α := Scalar.ofNat e.priority * 10.0
  let worth := if profile.confidenceScoring then worth + e.confidence * 5.0 else worth
  let worth := match score with
    | some s => worth + s * 3.0
    | none => worth
  worth - e.ageHours now * 0.1

end GossipGate
