import GossipGate.Proofs.Clamping

namespace GossipGate

variable {α : Type} [Scalar α]

open Scalar

namespace Engine

variable {c : Config α} {now : Nat}

/-- A gate does not open exactly for the problem that the checks find. -/
theorem start_error_iff {p : ConfigProblem} : start c now = .error p ↔ c.problem? = some p := by
  unfold start
  split
  · rename_i problem found
    rw [found]
    simp
  · rename_i usable
    simp [usable]

theorem start_ok_iff : (∃ reply, start c now = .ok reply) ↔ c.problem? = none := by
  constructor
  · rintro ⟨reply, started⟩
    exact start_usable started
  · intro usable
    exact ⟨_, start_eq usable now⟩

end Engine

namespace Config

/-- Settings that a gate can be run with. -/
structure Usable (c : Config α) : Prop extends c.Fits where
  anomalyThreshold : 0.0 < c.anomalyThreshold

section Numbers

variable [ComparedScalar α] {c : Config α}

theorem Usable.number (usable : c.Usable) : IsNumber c.anomalyThreshold :=
  isNumber_of_lt usable.anomalyThreshold

theorem Fits.numbers (fits : c.Fits) :
    IsNumber c.learningRate ∧ IsNumber c.confidenceThreshold :=
  ⟨isNumber_of_lt fits.learningRate.1, isNumber_of_le fits.confidence.1⟩

end Numbers

variable [RoundedScalar α] [ComparedScalar α]

/-- The check of the anomaly threshold finds what is at most zero, which a NaN is not. -/
theorem accepted_iff {c : Config α} :
    c.problem? = none ↔ c.Usable ∨ c.Fits ∧ ¬IsNumber c.anomalyThreshold := by
  have zero : IsNumber (0.0 : α) := isNumber_of_value? value?_zero
  rw [problem?_eq_none_iff, not_le_iff zero, and_or_left]
  refine or_congr_left ?_
  exact ⟨fun ⟨fits, positive⟩ => ⟨fits, positive⟩, fun usable => ⟨usable.toFits, usable.2⟩⟩

/-- Settings are accepted where they can be used, and beyond that where nothing but a NaN for the
anomaly threshold is wrong with them. Where they are not, the error names a condition that fails. A
gate opens for the accepted ones only. -/
theorem accepts (c : Config α) (now : Nat) :
    (c.problem? = none ↔ c.Usable ∨ c.Fits ∧ ¬IsNumber c.anomalyThreshold) ∧
      ((c.problem? = none ↔ c.Usable) ↔ ¬(c.Fits ∧ ¬IsNumber c.anomalyThreshold)) ∧
      (c.problem? = none → IsNumber c.learningRate ∧ IsNumber c.confidenceThreshold) ∧
      (∀ p, c.problem? = some p → p.Found c ∧ ∃ detail, p.error = .invalidConfig detail) ∧
      (∀ p, Engine.start c now = .error p ↔ c.problem? = some p) ∧
      ((∃ reply, Engine.start c now = .ok reply) ↔ c.problem? = none) := by
  refine ⟨accepted_iff, ?_, fun usable => (fits usable).numbers,
    fun p problem => ⟨found_of_problem? problem, _, rfl⟩, fun p => Engine.start_error_iff,
    Engine.start_ok_iff⟩
  rw [accepted_iff]
  constructor
  · rintro only ⟨fits, strange⟩
    exact strange (only.1 (Or.inr ⟨fits, strange⟩)).number
  · intro numbers
    exact or_iff_left numbers

/-- The settings by default can be used, and open a gate. -/
theorem accepts_default : (Config.default : Config Float).Usable ∧
    IsNumber (Config.default : Config Float).learningRate ∧
    ∃ reply, Engine.start (Config.default : Config Float) 0 = .ok reply := by
  have problem : (Config.default : Config Float).problem? = none := by decide +kernel
  have number : IsNumber (Config.default : Config Float).anomalyThreshold := by
    unfold IsNumber
    decide +kernel
  obtain ⟨accepted, _, numbers, _, _, opens⟩ := accepts (Config.default : Config Float) 0
  rcases accepted.1 problem with usable | ⟨_, strange⟩
  · exact ⟨usable, (numbers problem).1, opens.2 problem⟩
  · exact absurd number strange

/-- The settings by default, but for the anomaly threshold. -/
def unwatchedConfig : Config Float := { Config.default with anomalyThreshold := 0.0 / 0.0 }

theorem accepts_nan : unwatchedConfig.problem? = none ∧
    ¬IsNumber unwatchedConfig.anomalyThreshold ∧ ¬unwatchedConfig.Usable := by
  have strange : ¬IsNumber unwatchedConfig.anomalyThreshold := by
    unfold IsNumber
    decide +kernel
  exact ⟨by decide +kernel, strange, fun usable => strange usable.number⟩

end Config

end GossipGate
