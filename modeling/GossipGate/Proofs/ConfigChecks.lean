import GossipGate.Config.Problem

namespace GossipGate

variable {α : Type} [Scalar α]

/-- What the settings of a gate have to fulfil, apart from the anomaly threshold. -/
structure Config.Fits (c : Config α) : Prop where
  capacity : 0 < c.effectiveCapacity
  minTtl : 0 < c.minTtl.nanos
  ordered : c.minTtl ≤ c.maxTtl
  above : c.minTtl ≤ c.effectiveBaseTtl
  below : c.effectiveBaseTtl ≤ c.maxTtl
  learningRate : 0.0 < c.learningRate ∧ c.learningRate ≤ 1.0
  confidence : 0.0 ≤ c.confidenceThreshold ∧ c.confidenceThreshold ≤ 1.0
  shards : 0 < c.effectiveShards
  interval : 0 < c.adjustEvery.nanos

/-- What a problem says about settings, the durations that its text names included. -/
def ConfigProblem.Found (c : Config α) : ConfigProblem → Prop
  | zeroCapacity => c.effectiveCapacity = 0
  | zeroMinTtl => c.minTtl.nanos = 0
  | minAboveMax min max => (min = c.minTtl ∧ max = c.maxTtl) ∧ max < min
  | baseOutside base min max =>
    (base = c.effectiveBaseTtl ∧ min = c.minTtl ∧ max = c.maxTtl) ∧ (base < min ∨ max < base)
  | learningRate => ¬(0.0 < c.learningRate ∧ c.learningRate ≤ 1.0)
  | confidenceThreshold => ¬(0.0 ≤ c.confidenceThreshold ∧ c.confidenceThreshold ≤ 1.0)
  | anomalyThreshold => c.anomalyThreshold ≤ 0.0
  | zeroShards => c.effectiveShards = 0
  | zeroInterval => c.adjustEvery.nanos = 0

theorem Duration.isZero_iff {d : Duration} : d.isZero = true ↔ d.nanos = 0 := beq_iff_eq

namespace Config

variable {c : Config α} {p : ConfigProblem}

/-- The checks one after the other: each finds what its problem says or leaves a condition. -/
theorem problem?_cases (c : Config α) :
    (∃ p, c.problem? = some p ∧ p.Found c) ∨
      (c.problem? = none ∧ c.Fits ∧ ¬c.anomalyThreshold ≤ 0.0) := by
  unfold problem?
  dsimp only
  split
  · rename_i capacity
    exact Or.inl ⟨_, rfl, capacity⟩
  rename_i capacity
  split
  · rename_i minTtl
    exact Or.inl ⟨_, rfl, Duration.isZero_iff.1 minTtl⟩
  rename_i minTtl
  split
  · rename_i inverted
    exact Or.inl ⟨_, rfl, ⟨rfl, rfl⟩, inverted⟩
  rename_i ordered
  split
  · rename_i outside
    exact Or.inl ⟨_, rfl, ⟨rfl, rfl, rfl⟩, outside⟩
  rename_i inside
  split
  · rename_i rate
    exact Or.inl ⟨_, rfl, rate⟩
  rename_i rate
  split
  · rename_i confidence
    exact Or.inl ⟨_, rfl, confidence⟩
  rename_i confidence
  split
  · rename_i anomaly
    exact Or.inl ⟨_, rfl, anomaly⟩
  rename_i anomaly
  split
  · rename_i shards
    exact Or.inl ⟨_, rfl, shards⟩
  rename_i shards
  split
  · rename_i interval
    exact Or.inl ⟨_, rfl, Duration.isZero_iff.1 interval⟩
  rename_i interval
  rw [Duration.isZero_iff] at minTtl interval
  rw [not_or] at inside
  refine Or.inr ⟨rfl, ?_, anomaly⟩
  exact
    { capacity := Nat.pos_of_ne_zero capacity
      minTtl := Nat.pos_of_ne_zero minTtl
      ordered := Nat.not_lt.1 ordered
      above := Nat.not_lt.1 inside.1
      below := Nat.not_lt.1 inside.2
      learningRate := Decidable.not_not.1 rate
      confidence := Decidable.not_not.1 confidence
      shards := Nat.pos_of_ne_zero shards
      interval := Nat.pos_of_ne_zero interval }

theorem found_of_problem? (problem : c.problem? = some p) : p.Found c := by
  rcases c.problem?_cases with ⟨q, own, found⟩ | ⟨none, _⟩
  · cases problem.symm.trans own
    exact found
  · cases problem.symm.trans none

/-- Of settings that fit only the anomaly threshold can be a problem. -/
theorem Fits.found (fits : c.Fits) (found : p.Found c) : c.anomalyThreshold ≤ 0.0 := by
  cases p with
  | zeroCapacity => exact absurd found (Nat.ne_of_gt fits.capacity)
  | zeroMinTtl => exact absurd found (Nat.ne_of_gt fits.minTtl)
  | minAboveMax =>
    obtain ⟨⟨rfl, rfl⟩, inverted⟩ := found
    exact absurd inverted (Nat.not_lt.2 fits.ordered)
  | baseOutside =>
    obtain ⟨⟨rfl, rfl, rfl⟩, outside⟩ := found
    rcases outside with below | above
    · exact absurd below (Nat.not_lt.2 fits.above)
    · exact absurd above (Nat.not_lt.2 fits.below)
  | learningRate => exact absurd fits.learningRate found
  | confidenceThreshold => exact absurd fits.confidence found
  | anomalyThreshold => exact found
  | zeroShards => exact absurd found (Nat.ne_of_gt fits.shards)
  | zeroInterval => exact absurd found (Nat.ne_of_gt fits.interval)

theorem problem?_eq_none_iff : c.problem? = none ↔ c.Fits ∧ ¬c.anomalyThreshold ≤ 0.0 := by
  rcases c.problem?_cases with ⟨p, problem, found⟩ | ⟨none, conditions⟩
  · rw [problem]
    refine iff_of_false (by simp) ?_
    rintro ⟨fits, positive⟩
    exact positive (fits.found found)
  · exact iff_of_true none conditions

theorem fits (usable : c.problem? = none) : c.Fits := (problem?_eq_none_iff.1 usable).1

end Config

end GossipGate
