namespace GossipGate

/-- SipHash-1-3: a keyed hash of a sequence of bytes to one 64-bit word. -/
structure SipState where
  v0 : UInt64
  v1 : UInt64
  v2 : UInt64
  v3 : UInt64

namespace SipState

def rotate (x count : UInt64) : UInt64 := (x <<< count) ||| (x >>> (64 - count))

def init (key0 key1 : UInt64) : SipState :=
  { v0 := key0 ^^^ 0x736f6d6570736575
    v1 := key1 ^^^ 0x646f72616e646f6d
    v2 := key0 ^^^ 0x6c7967656e657261
    v3 := key1 ^^^ 0x7465646279746573 }

def round (s : SipState) : SipState :=
  let v0 := s.v0 + s.v1
  let v1 := rotate s.v1 13 ^^^ v0
  let v0 := rotate v0 32
  let v2 := s.v2 + s.v3
  let v3 := rotate s.v3 16 ^^^ v2
  let v0 := v0 + v3
  let v3 := rotate v3 21 ^^^ v0
  let v2 := v2 + v1
  let v1 := rotate v1 17 ^^^ v2
  let v2 := rotate v2 32
  { v0, v1, v2, v3 }

/-- Mixes one word in, with one round. -/
def absorb (s : SipState) (word : UInt64) : SipState :=
  let mixed := { s with v3 := s.v3 ^^^ word }.round
  { mixed with v0 := mixed.v0 ^^^ word }

/-- The result, after three rounds. -/
def finish (s : SipState) : UInt64 :=
  let last := { s with v2 := s.v2 ^^^ 0xff }.round.round.round
  last.v0 ^^^ last.v1 ^^^ last.v2 ^^^ last.v3

end SipState

/-- A word of at most eight bytes, the lowest first. -/
def littleEndian : List UInt8 → UInt64
  | [] => 0
  | byte :: rest => byte.toUInt64 ||| (littleEndian rest <<< 8)

/-- Absorbs all whole words; the last word holds the bytes left over and, at its top, the number of
all bytes. -/
def sipAbsorb (length : Nat) (s : SipState) : List UInt8 → SipState
  | a :: b :: c :: d :: e :: f :: g :: h :: rest =>
    sipAbsorb length (s.absorb (littleEndian [a, b, c, d, e, f, g, h])) rest
  | rest => s.absorb (littleEndian rest ||| (UInt64.ofNat length <<< 56))

def sipHash13 (key0 key1 : UInt64) (bytes : List UInt8) : UInt64 :=
  (sipAbsorb bytes.length (SipState.init key0 key1) bytes).finish

end GossipGate
