import GossipGate.Duration

namespace GossipGate

/-- The shortest and the longest time to live. -/
structure TtlBounds where
  min : Duration
  max : Duration
  deriving DecidableEq

namespace TtlBounds

def contains (b : TtlBounds) (ttl : Duration) : Bool := b.min ≤ ttl && ttl ≤ b.max

/-- The nearest duration inside; bounds that are the wrong way round have none. -/
def clamp (b : TtlBounds) (ttl : Duration) : Except Fault Duration :=
  if b.max < b.min then .error .invertedBounds
  else if ttl < b.min then .ok b.min
  else if b.max < ttl then .ok b.max
  else .ok ttl

/-- The nearest duration inside for a number of seconds. What is not above zero, NaN included, is
the lower bound, and infinity the upper one. -/
def clampSeconds {α : Type} [Scalar α] (b : TtlBounds) (seconds : α) : Except Fault Duration :=
  if 0.0 < seconds then
    if (Scalar.value? seconds).isSome then do
      b.clamp (← Duration.fromSeconds (Scalar.least seconds b.max.toSeconds))
    else .ok b.max
  else .ok b.min

/-- The least bounds around these that hold a duration too. -/
def including (b : TtlBounds) (ttl : Duration) : TtlBounds :=
  ⟨b.min.least ttl, b.max.greatest ttl⟩

end TtlBounds

/-- Bounds the right way round. -/
structure TtlWindow extends TtlBounds where
  min_le_max : min ≤ max

namespace TtlWindow

/-- The nearest duration inside. -/
def nearest (w : TtlWindow) (ttl : Duration) : Duration :=
  if ttl < w.min then w.min else if w.max < ttl then w.max else ttl

theorem clamp_eq (w : TtlWindow) (ttl : Duration) : w.clamp ttl = .ok (w.nearest ttl) := by
  have ordered : ¬w.max < w.min := Nat.not_lt.2 w.min_le_max
  unfold TtlBounds.clamp nearest
  simp only [ordered, if_false]
  split
  · rfl
  · split <;> rfl

end TtlWindow

end GossipGate
