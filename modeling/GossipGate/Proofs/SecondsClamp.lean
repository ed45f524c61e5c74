import GossipGate.Proofs.Clamping

namespace GossipGate

variable {α : Type} [Scalar α]

open Scalar

theorem Scalar.value?_least [RoundedScalar α] {x y : α} {p q : Rat} (left : value? x = some p)
    (right : value? y = some q) : value? (least x y) = some (min p q) := by
  unfold least
  split
  · rename_i below
    rw [min_eq_left ((RoundedScalar.lt_iff left right).1 below).le]
    exact left
  · rename_i notBelow
    rw [RoundedScalar.lt_iff left right, not_lt] at notBelow
    rw [min_eq_right notBelow]
    exact right

namespace TtlWindow

variable (w : TtlWindow) {a b : Duration} {x y : α} {p q m : Rat}

theorem nanos_nearest :
    (w.nearest a).nanos = max w.min.nanos (min w.max.nanos a.nanos) := by
  have ordered : w.min.nanos ≤ w.max.nanos := w.min_le_max
  unfold nearest
  simp only [Duration.lt_def]
  split
  · omega
  · split <;> omega

theorem nearest_mono (le : a ≤ b) : w.nearest a ≤ w.nearest b := by
  rw [Duration.le_def] at le ⊢
  rw [nanos_nearest, nanos_nearest]
  omega

theorem nearest_of_max_le (le : w.max ≤ a) : w.nearest a = w.max := by
  have ordered : w.min.nanos ≤ w.max.nanos := w.min_le_max
  rw [Duration.le_def] at le
  refine Duration.ext ?_
  rw [nanos_nearest]
  omega

theorem clampSeconds_of_not_lt (notAbove : ¬0.0 < x) : w.clampSeconds x = .ok w.min := by
  unfold TtlBounds.clampSeconds
  rw [if_neg notAbove]

theorem clampSeconds_of_infinite (above : 0.0 < x) (infinite : value? x = none) :
    w.clampSeconds x = .ok w.max := by
  unfold TtlBounds.clampSeconds
  rw [if_pos above, infinite]
  rfl

/-- A finite number of seconds above zero is cut to the upper bound as a number, then measured and
cut as a duration. -/
theorem clampSeconds_of_finite (above : 0.0 < x) (value : value? x = some p) :
    w.clampSeconds x =
      (Duration.fromSeconds (least x w.max.toSeconds)).map w.nearest := by
  unfold TtlBounds.clampSeconds
  rw [if_pos above, value]
  simp only [Option.isSome_some, if_true]
  cases Duration.fromSeconds (least x w.max.toSeconds) with
  | error => rfl
  | ok d => exact w.clamp_eq d

section Measured

variable [RoundedScalar α] (above : (0.0 : α) < x) (value : value? x = some p)
  (most : value? (w.max.toSeconds : α) = some m)

include above value most

theorem clampSeconds_ok_of_finite (positive : 0 ≤ m)
    (short : Duration.nearestNanos (min p m) < Duration.limit) :
    ∃ d, w.clampSeconds x = .ok (w.nearest d) ∧ d.nanos = Duration.nearestNanos (min p m) := by
  have least := value?_least value most
  have under := (RoundedScalar.lt_iff value?_zero value).1 above
  obtain ⟨d, measured, nanos⟩ :=
    Duration.fromSeconds_ok least (le_min under.le positive) short
  refine ⟨d, ?_, nanos⟩
  rw [w.clampSeconds_of_finite above value, measured]
  rfl

theorem clampSeconds_error_of_finite (positive : 0 ≤ m)
    (long : Duration.limit ≤ Duration.nearestNanos (min p m)) :
    w.clampSeconds x = .error .durationRange := by
  have least := value?_least value most
  have under := (RoundedScalar.lt_iff value?_zero value).1 above
  rw [w.clampSeconds_of_finite above value,
    Duration.fromSeconds_error least (le_min under.le positive) long]
  rfl

theorem clampSeconds_eq_ok (positive : 0 ≤ m) (done : w.clampSeconds x = .ok a) :
    ∃ d, a = w.nearest d ∧ d.nanos = Duration.nearestNanos (min p m) := by
  rcases lt_or_ge (Duration.nearestNanos (min p m)) Duration.limit with short | long
  · obtain ⟨d, own, nanos⟩ := w.clampSeconds_ok_of_finite above value most positive short
    exact ⟨d, Except.ok.inj (done.symm.trans own), nanos⟩
  · rw [w.clampSeconds_error_of_finite above value most positive long] at done
    cases done

omit above value in
/-- Only a finite number of seconds can fail, where it and the upper bound are both too long. -/
theorem clampSeconds_ok_of_short (positive : 0 ≤ m)
    (short : ∀ p, 0.0 < x → value? x = some p →
      Duration.nearestNanos (min p m) < Duration.limit) : ∃ d, w.clampSeconds x = .ok d := by
  by_cases above : 0.0 < x
  · cases value : value? x with
    | none => exact ⟨_, w.clampSeconds_of_infinite above value⟩
    | some p =>
      obtain ⟨d, done, _⟩ :=
        w.clampSeconds_ok_of_finite above value most positive (short p above value)
      exact ⟨_, done⟩
  · exact ⟨_, w.clampSeconds_of_not_lt above⟩

end Measured

theorem clampSeconds_mono [RoundedScalar α] [ComparedScalar α] (le : x ≤ y)
    (lower : w.clampSeconds x = .ok a) (upper : w.clampSeconds y = .ok b) : a ≤ b := by
  have insideLower := TtlBounds.contains_iff.1
    (TtlBounds.contains_clampSeconds w.min_le_max lower)
  have insideUpper := TtlBounds.contains_iff.1
    (TtlBounds.contains_clampSeconds w.min_le_max upper)
  by_cases above : (0.0 : α) < x
  · have higher : (0.0 : α) < y := lt_of_lt_of_le above le
    cases valueUpper : value? y with
    | none =>
      rw [w.clampSeconds_of_infinite higher valueUpper] at upper
      cases upper
      exact insideLower.2
    | some q =>
      -- What lies between two numbers with values has one.
      obtain ⟨p, valueLower⟩ := RoundedScalar.between value?_zero valueUpper above le
      have order := (RoundedScalar.le_iff valueLower valueUpper).1 le
      have under := (RoundedScalar.lt_iff value?_zero valueLower).1 above
      obtain ⟨_, _, m, most⟩ := w.max.exists_measures (α := α)
      obtain ⟨d, rfl, first⟩ := w.clampSeconds_eq_ok above valueLower most.value most.nonneg lower
      obtain ⟨e, rfl, second⟩ := w.clampSeconds_eq_ok higher valueUpper most.value most.nonneg upper
      refine w.nearest_mono ?_
      rw [Duration.le_def, first, second]
      exact Duration.nearestNanos_mono (le_min under.le most.nonneg) (min_le_min_right m order)
  · rw [w.clampSeconds_of_not_lt above] at lower
    cases lower
    exact insideUpper.1

/-- Half a minute to half an hour. -/
def minutesWindow : TtlWindow := ⟨⟨.ofSeconds 30, .ofMinutes 30⟩, by decide⟩

end TtlWindow

end GossipGate
