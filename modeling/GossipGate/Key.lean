import GossipGate.Hash.SipHash
import GossipGate.Tier

namespace GossipGate

/-- The identity under which a message is tracked. -/
inductive Key where
  | global (hash : String)
  | peer (network messageType peer hash : String)
  | typed (network messageType hash : String)
  deriving DecidableEq, Repr

namespace Key

/-- Across networks the hash alone identifies a message; a tracked peer is part of the identity
where there is one. -/
def build (profile : Profile) (hash messageType peer network : String) : Key :=
  if profile.crossNetwork then global hash
  else if profile.peerTracking && !peer.isEmpty then .peer network messageType peer hash
  else typed network messageType hash

def hash : Key → String
  | global h => h
  | peer _ _ _ h => h
  | typed _ _ h => h

/-- The parts of a key in order, the hash last. -/
def parts : Key → List String
  | global hash => [hash]
  | peer network messageType sender hash => [network, messageType, sender, hash]
  | typed network messageType hash => [network, messageType, hash]

def text (key : Key) : String := String.intercalate ":" key.parts

/-- The number of a shape, as the first word of what is hashed. -/
def shape : Key → UInt8
  | global _ => 0
  | peer _ _ _ _ => 1
  | typed _ _ _ => 2

/-- What is hashed: the shape as a little-endian word, then each part with a closing byte 255. -/
def bytes (key : Key) : List UInt8 :=
  [key.shape, 0, 0, 0, 0, 0, 0, 0] ++ key.parts.flatMap fun part => part.toUTF8.toList ++ [0xff]

/-- The hash that spreads keys over shards. -/
def fingerprint (key : Key) : Nat :=
  (sipHash13 0x72656c61792d6470 0x7032702d64656475 key.bytes).toNat

/-- The shard of a key among a number of shards; there is always at least one. -/
def shardAmong (key : Key) (shards : Nat) : Nat := key.fingerprint % max shards 1

end Key

end GossipGate
