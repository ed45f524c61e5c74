import GossipGate.Scalar

namespace GossipGate

/-- The weight of the leading bit of a double among the 52 bits of its fraction. -/
abbrev leadingBit : Nat := 4503599627370496

/-- The fields of a double: its sign, eleven bits of exponent and 52 bits of fraction. -/
structure Binary64 where
  negative : Bool
  exponent : Nat
  fraction : Nat
  deriving DecidableEq, Repr

def Binary64.ofFloat (x : Float) : Binary64 :=
  let bits := x.toBits.toNat
  { negative := bits / 9223372036854775808 = 1
    exponent := bits / leadingBit % 2048
    fraction := bits % leadingBit }

/-- The size of the number, ignoring its sign. The all-ones exponent holds NaN and the
infinities. -/
def Binary64.magnitude? (b : Binary64) : Option Rat :=
  if b.exponent = 2047 then none
  else if b.exponent = 0 then some (mkRat b.fraction (Nat.pow 2 1074))
  else if b.exponent < 1075 then
    some (mkRat (b.fraction + leadingBit : Nat) (Nat.pow 2 (1075 - b.exponent)))
  else some (mkRat ((b.fraction + leadingBit) * Nat.pow 2 (b.exponent - 1075) : Nat) 1)

/-- The rational number a double stands for. -/
def binary64Value? (x : Float) : Option Rat :=
  let b := Binary64.ofFloat x
  b.magnitude?.map fun q => if b.negative then -q else q

instance : Scalar Float where
  decLt := inferInstance
  decLe := inferInstance
  ofNat := Float.ofNat
  exp := Float.exp
  value? := binary64Value?

end GossipGate
