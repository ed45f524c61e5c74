import GossipGate.Traffic
import GossipGate.Ttl.Bounds

namespace GossipGate

inductive Direction where
  | increase | decrease
  deriving DecidableEq, Repr

def Direction.name : Direction → String
  | increase => "increase"
  | decrease => "decrease"

/-- The direction from one duration to another, none where they are the same. -/
def Direction.between? (old new : Duration) : Option Direction :=
  if old < new then some increase else if new < old then some decrease else none

/-- A new TTL with the direction to report, if any. -/
structure TtlChange where
  ttl : Duration
  direction : Option Direction
  deriving DecidableEq

namespace TtlChange

variable {α : Type} [Scalar α]

/-- Many duplicates lengthen the TTL by 30 or 15 seconds, few shorten it by 15 seconds while it is
above two minutes, and in between it grows by 5 seconds unreported. -/
def proposal (ttl : Duration) (rate : α) : Except Fault TtlChange :=
  if 0.4 < rate then (ttl.add (.ofSeconds 30)).map fun longer => ⟨longer, some .increase⟩
  else if 0.2 < rate then (ttl.add (.ofSeconds 15)).map fun longer => ⟨longer, some .increase⟩
  else if rate < 0.05 then
    if .ofMinutes 2 < ttl then
      (ttl.sub (.ofSeconds 15)).map fun shorter => ⟨shorter, some .decrease⟩
    else .ok ⟨ttl, none⟩
  else (ttl.add (.ofSeconds 5)).map fun longer => ⟨longer, none⟩

/-- The step controller: a proposal cut to the bounds, its direction reported as proposed. -/
def step (ttl : Duration) (rate : α) (bounds : TtlBounds) : Except Fault TtlChange := do
  let proposed ← proposal ttl rate
  return { proposed with ttl := ← bounds.clamp proposed.ttl }

/-- The duplicate rate the proportional controller steers towards. -/
def targetRate : α := 0.25

/-- The proportional controller: the TTL grows with the distance of the rate from its target. -/
def scale (ttl : Duration) (rate learningRate : α) (bounds : TtlBounds) :
    Except Fault TtlChange := do
  let factor := 1.0 + (rate - targetRate) * learningRate * 1.5
  let next ← bounds.clampSeconds (ttl.toSeconds * factor)
  return ⟨next, Direction.between? ttl next⟩

end TtlChange

/-- How long a type of message is kept beside others: blocks longer, control messages shorter. -/
def typeWeight {α : Type} [Scalar α] : String → α
  | "block" | "NewBlock" => 1.5
  | "ping" | "pong" => 0.5
  | _ => 1.0

/-- The TTL learned for one type of message from the global one, once more than 20 messages of the
type were seen. -/
def Traffic.learnedTtl {α : Type} [Scalar α] (t : Traffic α) (global : Duration)
    (messageType : String) (learningRate : α) (bounds : TtlBounds) :
    Except Fault (Option Duration) :=
  if t.seen ≤ 20 then .ok none
  else
    let factor := 1.0 + (Scalar.ratio t.duplicates t.seen - TtlChange.targetRate) * learningRate
    (bounds.clampSeconds (global.toSeconds * (factor * typeWeight messageType))).map some

end GossipGate
