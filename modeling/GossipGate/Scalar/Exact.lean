import GossipGate.Scalar

namespace GossipGate

/-- Exact arithmetic on the rationals, for any choice of the exponential. -/
@[reducible] def exactScalar (exp : Rat → Rat) : Scalar Rat where
  decLt := inferInstance
  decLe := inferInstance
  ofNat := fun n => (n : Rat)
  exp := exp
  value? := some

end GossipGate
