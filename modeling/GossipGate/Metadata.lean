import GossipGate.Json.Kept
import GossipGate.Json.Record

namespace GossipGate

/-- What a caller may say about a message: its network, a priority, its size in bytes and free
properties. -/
structure Metadata where
  source : Option String
  priority : Option UInt8
  size : Option UInt64
  properties : Table String Json

namespace Metadata

def empty : Metadata := ⟨none, none, none, .empty⟩

/-- The network of a message; without a source it is unknown. -/
def network (m : Metadata) : String :=
  match m.source with
  | some source => if source.isEmpty then "unknown" else source
  | none => "unknown"

/-- The size as a count, zero where none is given. -/
def bytes (m : Metadata) : Nat := (m.size.map UInt64.toNat).getD 0

def withProperty (m : Metadata) (name : String) (value : Json) : Metadata :=
  { m with properties := m.properties.insert name value }

/-- Adds properties; where a name is there already, the added value wins. -/
def withProperties (m : Metadata) (added : Table String Json) : Metadata :=
  { m with properties := m.properties.union added }

def toJson (m : Metadata) : Json :=
  .object [("source", .optional .text m.source),
    ("priority", .optional (fun p : UInt8 => .nat p.toNat) m.priority),
    ("size", .optional (fun s : UInt64 => .nat s.toNat) m.size),
    ("properties", .object m.properties.entries)]

open RecordReader in
def reader : RecordReader Metadata :=
  Metadata.mk <$> optional "source" (.plain Json.text?)
    <*> optional "priority" (.plain Json.byte?)
    <*> optional "size" (.plain Json.word?)
    <*> required "properties" (.plain Json.kept?)

def ofJson : JsonReader Metadata := reader.read

end Metadata

end GossipGate
