namespace GossipGate

/-- The numbers the gate measures with. Running code takes binary floating point; exact rationals
serve to reason about the same formulas. `value?` is the exact value, absent for NaN and the
infinities. -/
class Scalar (α : Type) extends
    Add α, Sub α, Mul α, Div α, Neg α, LT α, LE α, BEq α, OfScientific α where
  decLt : DecidableLT α
  decLe : DecidableLE α
  ofNat : Nat → α
  exp : α → α
  value? : α → Option Rat

namespace Scalar

variable {α : Type} [Scalar α]

instance (x y : α) : Decidable (x < y) := decLt x y
instance (x y : α) : Decidable (x ≤ y) := decLe x y

/-- The nearest number of the interval; a NaN stays what it is. -/
def clamp (lo hi x : α) : α :=
  if x < lo then lo else if hi < x then hi else x

/-- The smaller of two numbers, the second where they do not compare. -/
def least (x y : α) : α :=
  if x < y then x else y

/-- The quotient of two counts, taken after both became numbers. -/
def ratio (part whole : Nat) : α :=
  ofNat part / ofNat whole

/-- The share of a whole that may still be empty. -/
def share (part whole : Nat) : α :=
  if whole = 0 then 0.0 else ratio part whole

/-- Moves an average towards a sample by the weight `rate`. -/
def blend (average sample rate : α) : α :=
  average * (1.0 - rate) + sample * rate

end Scalar

end GossipGate
