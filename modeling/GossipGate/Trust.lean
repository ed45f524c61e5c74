import GossipGate.Json.Record
import GossipGate.Scalar

namespace GossipGate

inductive Trust where
  | low | medium | high | trusted
  deriving DecidableEq, Repr

namespace Trust

def rank : Trust → Nat
  | low => 0
  | medium => 1
  | high => 2
  | trusted => 3

instance : Ord Trust := ⟨fun a b => compare a.rank b.rank⟩

def name : Trust → String
  | low => "LOW"
  | medium => "MEDIUM"
  | high => "HIGH"
  | trusted => "TRUSTED"

def ofName? : String → Option Trust
  | "LOW" => some low
  | "MEDIUM" => some medium
  | "HIGH" => some high
  | "TRUSTED" => some trusted
  | _ => none

def ofScore {α : Type} [Scalar α] (score : α) : Trust :=
  if 0.9 ≤ score then trusted
  else if 0.7 ≤ score then high
  else if 0.4 ≤ score then medium
  else low

/-- What the level adds to the priority of a message. -/
def priorityBonus : Trust → Int
  | trusted => 3
  | high => 2
  | medium => 1
  | low => -1

def toJson (level : Trust) : Json := .text level.name

def ofJson : JsonReader Trust := .plain (Json.name? ofName?)

theorem ofName?_name (level : Trust) : ofName? level.name = some level := by
  cases level <;> rfl

end Trust

end GossipGate
