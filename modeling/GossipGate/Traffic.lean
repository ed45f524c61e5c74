import GossipGate.Duration.Form
import GossipGate.Json.Record

namespace GossipGate

/-- What is known about one type of message. Clock readings are in milliseconds. -/
structure Traffic (α : Type) where
  seen : Nat
  duplicates : Nat
  duplicateRate : α
  ttl : Duration
  adapted : Bool
  averageGap : Duration
  lastSeen : Option Nat
  velocity : α
  averageSize : α

namespace Traffic

variable {α : Type} [Scalar α]

def fresh (ttl : Duration) : Traffic α :=
  { seen := 0, duplicates := 0, duplicateRate := 0.0, ttl, adapted := false,
    averageGap := .zero, lastSeen := none, velocity := 0.0, averageSize := 0.0 }

def countSeen (t : Traffic α) : Traffic α :=
  { t with seen := t.seen + 1, duplicateRate := Scalar.share t.duplicates (t.seen + 1) }

def countDuplicate (t : Traffic α) : Traffic α :=
  { t with duplicates := t.duplicates + 1, duplicateRate := Scalar.share (t.duplicates + 1) t.seen }

/-- The gap to the latest arrival blended into the average; an average of zero starts anew. -/
def nextGap (t : Traffic α) (gap : Duration) (rate : α) : Except Fault Duration :=
  if t.averageGap.isZero then .ok gap
  else Duration.fromSeconds (Scalar.blend t.averageGap.toSeconds gap.toSeconds rate)

/-- Counts one arrival. From the second one on there is a velocity in messages per second, which
stays what it was while the average gap is zero. -/
def arrive (t : Traffic α) (now : Nat) (rate : α) : Except Fault (Traffic α × Option α) :=
  match t.lastSeen with
  | none => .ok ({ t with lastSeen := some now }, none)
  | some previous => do
    let averageGap ← t.nextGap (.ofMillis (now - previous)) rate
    let velocity := if averageGap.isZero then t.velocity else 1.0 / averageGap.toSeconds
    return ({ t with lastSeen := some now, averageGap, velocity }, some velocity)

/-- Blends a message size into the average; zero means that no size was given. -/
def recordSize (t : Traffic α) (size : Nat) (rate : α) : Traffic α :=
  if size = 0 then t
  else
    { t with
      averageSize :=
        if t.averageSize == 0.0 then Scalar.ofNat size
        else Scalar.blend t.averageSize (Scalar.ofNat size) rate }

def toJson (t : Traffic Float) : Json :=
  .object [("total_seen", .nat t.seen), ("duplicates", .nat t.duplicates),
    ("duplicate_rate", .float t.duplicateRate), ("adaptive_ttl", t.ttl.toJson),
    ("ttl_adapted", .bool t.adapted), ("avg_time_between", t.averageGap.toJson),
    ("last_seen", .optional .nat t.lastSeen), ("velocity", .float t.velocity),
    ("average_size", .float t.averageSize)]

open RecordReader in
def reader : RecordReader (Traffic Float) :=
  Traffic.mk <$> required "total_seen" (.plain (Json.nat? UInt64.size))
    <*> required "duplicates" (.plain (Json.nat? UInt64.size))
    <*> required "duplicate_rate" (.plain Json.float?)
    <*> required "adaptive_ttl" Duration.ofJson
    <*> required "ttl_adapted" (.plain Json.bool?)
    <*> required "avg_time_between" Duration.ofJson
    <*> optional "last_seen" (.plain (Json.nat? UInt64.size))
    <*> required "velocity" (.plain Json.float?)
    <*> required "average_size" (.plain Json.float?)

def ofJson : JsonReader (Traffic Float) := reader.read

end Traffic

end GossipGate
