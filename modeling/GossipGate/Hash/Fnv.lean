namespace GossipGate

/-- FNV-1a: an unkeyed hash of a sequence of bytes to one 64-bit word. -/
def fnv1a (bytes : List UInt8) : UInt64 :=
  bytes.foldl (fun hash byte => (hash ^^^ byte.toUInt64) * 0x100000001b3) 0xcbf29ce484222325

end GossipGate
