import GossipGate.Scalar

namespace GossipGate

namespace Confidence

variable {α : Type} [Scalar α]

/-- What the type of a message adds to the confidence in it. -/
def typeBonus : String → α
  | "block" | "NewBlock" => 0.1
  | "transaction" | "Transactions" => 0.05
  | "ping" | "pong" => -0.05
  | _ => 0.0

/-- The confidence in a new entry: a long hash, a scored peer, the type and a size above 2^20 bytes
count for it. -/
def initial (hash messageType : String) (score : Option α) (size : Nat) : α :=
  let base : α := 0.7
  let base := if 32 ≤ hash.utf8ByteSize then base + 0.1 else base
  let base := match score with
    | some s => base + s * 0.2
    | none => base
  let base := base + typeBonus messageType
  let base := if 1048576 < size then base + 0.05 else base
  Scalar.clamp 0.1 1.0 base

/-- The confidence after another sighting: repetitions raise it by at most 30 percent, time since
the first sighting lets it decay, and a low score of the owner lowers it. -/
def updated (current : α) (seenCount sinceFirst : Nat) (score : Option α) : α :=
  let boost : α := Scalar.least (1.0 + Scalar.ofNat seenCount * 0.01) 1.3
  let decay : α := Scalar.exp (-(Scalar.ofNat sinceFirst) / 7200000.0)
  let influence : α := match score with
    | some s => 0.5 + s * 0.5
    | none => 1.0
  Scalar.clamp 0.1 1.0 (current * boost * decay * influence)

end Confidence

end GossipGate
