import GossipGate.Duration.Form
import GossipGate.Json.Record
import GossipGate.Table

namespace GossipGate

/-- What is known about one network: its TTL for priority messages, its largest message in bytes
and the peers that it trusts from the start. -/
structure Network where
  name : String
  baseTtl : Duration
  maxMessageSize : UInt64
  priorityMessages : List String
  trustedPeers : List String
  deriving DecidableEq

namespace Network

def isPriority (n : Network) (messageType : String) : Bool :=
  n.priorityMessages.contains messageType

def trusts (n : Network) (peer : String) : Bool := n.trustedPeers.contains peer

def bitcoin : Network :=
  { name := "bitcoin", baseTtl := .ofMinutes 12, maxMessageSize := 4194304
    priorityMessages := ["block", "transaction", "addr"], trustedPeers := [] }

def ethereum : Network :=
  { name := "ethereum", baseTtl := .ofMinutes 3, maxMessageSize := 2097152
    priorityMessages := ["NewBlock", "NewBlockHashes", "Transactions"], trustedPeers := [] }

def solana : Network :=
  { name := "solana", baseTtl := .ofMinutes 1, maxMessageSize := 1048576
    priorityMessages := ["slot", "block", "shred"], trustedPeers := [] }

def toJson (n : Network) : Json :=
  .object [("network", .text n.name), ("base_ttl", n.baseTtl.toJson),
    ("max_message_size", .nat n.maxMessageSize.toNat),
    ("priority_messages", .array (n.priorityMessages.map .text)),
    ("trusted_peers", .array (n.trustedPeers.map .text))]

open RecordReader in
def reader : RecordReader Network :=
  Network.mk <$> required "network" (.plain Json.text?)
    <*> required "base_ttl" Duration.ofJson
    <*> required "max_message_size" (.plain Json.word?)
    <*> withDefault "priority_messages" (.list (.plain Json.text?)) []
    <*> withDefault "trusted_peers" (.list (.plain Json.text?)) []

def ofJson : JsonReader Network := reader.read

end Network

/-- The known networks by name. -/
structure Networks where
  table : Table String Network

namespace Networks

def empty : Networks := ⟨.empty⟩

/-- Adds a network, in place of one of the same name. -/
def register (known : Networks) (network : Network) : Networks :=
  ⟨known.table.insert network.name network⟩

def wellKnown : Networks :=
  ((empty.register .bitcoin).register .ethereum).register .solana

def get? (known : Networks) (name : String) : Option Network := known.table.get? name

def size (known : Networks) : Nat := known.table.size

/-- The base TTL of a network, for the types of message that have priority there. -/
def priorityTtl? (known : Networks) (name messageType : String) : Option Duration :=
  match known.get? name with
  | some network => if network.isPriority messageType then some network.baseTtl else none
  | none => none

/-- Whether any known network trusts a peer. -/
def trusts (known : Networks) (peer : String) : Bool :=
  known.table.values.any fun network => network.trusts peer

end Networks

end GossipGate
