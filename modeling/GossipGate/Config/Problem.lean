import GossipGate.Config
import GossipGate.Duration.Brief

namespace GossipGate

/-- Why settings cannot be used. -/
inductive ConfigProblem where
  | zeroCapacity
  | zeroMinTtl
  | minAboveMax (min max : Duration)
  | baseOutside (base min max : Duration)
  | learningRate
  | confidenceThreshold
  | anomalyThreshold
  | zeroShards
  | zeroInterval
  deriving DecidableEq

def ConfigProblem.detail : ConfigProblem → String
  | zeroCapacity => "capacity cannot be 0"
  | zeroMinTtl => "min_ttl cannot be 0"
  | minAboveMax min max => "min_ttl " ++ min.brief ++ " exceeds max_ttl " ++ max.brief
  | baseOutside base min max =>
    "base_ttl " ++ base.brief ++ " outside [" ++ min.brief ++ ", " ++ max.brief ++ "]"
  | learningRate => "learning_rate must be in (0, 1]"
  | confidenceThreshold => "confidence_threshold must be in [0, 1]"
  | anomalyThreshold => "anomaly_threshold must be positive"
  | zeroShards => "shard_count cannot be 0"
  | zeroInterval => "adjust_every cannot be 0"

namespace Config

variable {α : Type} [Scalar α]

/-- The first problem of the settings, if there is one. The anomaly threshold is refused where it
is at most zero; a NaN is not. -/
def problem? (c : Config α) : Option ConfigProblem :=
  let base := c.effectiveBaseTtl
  if c.effectiveCapacity = 0 then some .zeroCapacity
  else if c.minTtl.isZero then some .zeroMinTtl
  else if c.maxTtl < c.minTtl then some (.minAboveMax c.minTtl c.maxTtl)
  else if base < c.minTtl ∨ c.maxTtl < base then some (.baseOutside base c.minTtl c.maxTtl)
  else if ¬(0.0 < c.learningRate ∧ c.learningRate ≤ 1.0) then some .learningRate
  else if ¬(0.0 ≤ c.confidenceThreshold ∧ c.confidenceThreshold ≤ 1.0) then
    some .confidenceThreshold
  else if c.anomalyThreshold ≤ 0.0 then some .anomalyThreshold
  else if c.effectiveShards = 0 then some .zeroShards
  else if c.adjustEvery.isZero then some .zeroInterval
  else none

theorem minTtl_le_maxTtl {c : Config α} (usable : c.problem? = none) : c.minTtl ≤ c.maxTtl := by
  unfold problem? at usable
  split at usable
  · cases usable
  · split at usable
    · cases usable
    · split at usable
      · cases usable
      · rename_i ordered
        exact Nat.not_lt.1 ordered

end Config

/-- What the outer interface reports as an error. -/
inductive GateError where
  | unknownTier (requested : String)
  | invalidConfig (detail : String)
  | loggingInit (detail : String)
  | metricsInit (detail : String)
  | telemetryConfig (detail : String)
  deriving DecidableEq, Repr

def GateError.message : GateError → String
  | unknownTier requested => "Unknown tier: " ++ requested
  | invalidConfig detail => "Invalid configuration: " ++ detail
  | loggingInit detail => "Telemetry error: Failed to initialize logging: " ++ detail
  | metricsInit detail => "Telemetry error: Failed to initialize Prometheus metrics: " ++ detail
  | telemetryConfig detail => "Telemetry error: Invalid configuration: " ++ detail

def ConfigProblem.error (problem : ConfigProblem) : GateError := .invalidConfig problem.detail

end GossipGate
