import GossipGate.Proofs.Faults

namespace GossipGate

variable {α : Type} [Scalar α]

open Scalar

/-! ### Formulas that keep the order -/

namespace Scalar

/-- Two numbers with values of bounded size, the first not above the second. -/
structure InOrder (k : Nat) (x y : α) : Prop where
  first : Within k x
  second : Within k y
  le : x ≤ y

variable [RoundedScalar α] {x y z : α} {j k : Nat}

/-- An operation that rounds a monotone function of the value keeps the order. -/
theorem InOrder.map {f : α → α} {g : Rat → Rat} (order : InOrder k x y) (mono : Monotone g)
    (rounds : ∀ u p, value? u = some p → |p| ≤ 2 ^ k →
      |g p| ≤ 2 ^ j ∧ (RoundedScalar.rounding α).Gives (g p) (f u)) : InOrder j (f x) (f y) := by
  obtain ⟨⟨p, left, boundedLeft⟩, ⟨q, right, boundedRight⟩, le⟩ := order
  obtain ⟨fewLeft, v, low, roundsLeft⟩ := rounds x p left boundedLeft
  obtain ⟨fewRight, w, high, roundsRight⟩ := rounds y q right boundedRight
  have below : g p ≤ g q := mono ((RoundedScalar.le_iff left right).1 le)
  exact ⟨⟨v, low, roundsLeft.bounded fewLeft⟩, ⟨w, high, roundsRight.bounded fewRight⟩,
    (RoundedScalar.le_iff low high).2 (roundsLeft.mono roundsRight below)⟩

theorem InOrder.sub (order : InOrder k x y) (other : Within k z) (few : k + 1 ≤ 1000) :
    InOrder (k + 1) (x - z) (y - z) := by
  obtain ⟨r, value, bounded⟩ := other
  refine order.map (f := (· - z)) (g := (· - r)) (fun p q le => sub_le_sub_right le r) ?_
  intro u p own small
  have sum := abs_sub_le_two_pow small bounded
  exact ⟨sum, RoundedScalar.sub own value sum few⟩

theorem InOrder.add_left (order : InOrder k x y) (other : Within k z) (few : k + 1 ≤ 1000) :
    InOrder (k + 1) (z + x) (z + y) := by
  obtain ⟨r, value, bounded⟩ := other
  refine order.map (f := (z + ·)) (g := (r + ·)) (fun p q le => add_le_add_right le r) ?_
  intro u p own small
  have sum := abs_add_le_two_pow bounded small
  exact ⟨sum, RoundedScalar.add value own sum few⟩

theorem InOrder.mul (order : InOrder k x y) (weight : UpTo j z) (few : k + j ≤ 1000) :
    InOrder (k + j) (x * z) (y * z) := by
  obtain ⟨r, value, positive, bounded⟩ := weight
  refine order.map (f := (· * z)) (g := (· * r))
    (fun p q le => mul_le_mul_of_nonneg_right le positive) ?_
  intro u p own small
  have product := abs_mul_le_two_pow small ((abs_of_nonneg positive).trans_le bounded)
  exact ⟨product, RoundedScalar.mul own value product few⟩

theorem InOrder.mul_left (order : InOrder k x y) (weight : UpTo j z) (few : j + k ≤ 1000) :
    InOrder (j + k) (z * x) (z * y) := by
  obtain ⟨r, value, positive, bounded⟩ := weight
  refine order.map (f := (z * ·)) (g := (r * ·))
    (fun p q le => mul_le_mul_of_nonneg_left le positive) ?_
  intro u p own small
  have product := abs_mul_le_two_pow ((abs_of_nonneg positive).trans_le bounded) small
  exact ⟨product, RoundedScalar.mul value own product few⟩

end Scalar

namespace Direction

variable {old new : Duration}

theorem between?_increase : between? old new = some increase ↔ old < new := by
  unfold between?
  grind

theorem between?_decrease : between? old new = some decrease ↔ new < old := by
  have apart : old < new → ¬new < old := Nat.lt_asymm
  unfold between?
  grind

theorem between?_none : between? old new = none ↔ new = old := by
  have total : new = old ↔ ¬old < new ∧ ¬new < old := by
    rw [Duration.ext_iff, Duration.lt_def, Duration.lt_def]
    omega
  rw [total]
  unfold between?
  grind

end Direction

namespace TtlChange

variable {w : TtlWindow} {ttl : Duration} {rate higher learningRate : α}
  {change lower upper : TtlChange}

/-! ### The step controller -/

/-- The seconds by which the step controller moves a TTL before it is cut to the bounds. -/
def stepSeconds (ttl : Duration) (rate : α) : Int :=
  if 0.4 < rate then 30
  else if 0.2 < rate then 15
  else if rate < 0.05 then if .ofMinutes 2 < ttl then -15 else 0
  else 5

/-- A proposal moves the TTL by so many seconds, and not against the direction that it reports. -/
structure Moved (ttl : Duration) (seconds : Int) (change : TtlChange) : Prop where
  nanos : (change.ttl.nanos : Int) = ttl.nanos + 1000000000 * seconds
  increase : change.direction = some .increase → 0 ≤ seconds
  decrease : change.direction = some .decrease → seconds ≤ 0

theorem moved_add {seconds : Nat} {direction : Option Direction} (few : seconds ≤ 30)
    (notDown : direction ≠ some .decrease)
    (done : (ttl.add (.ofSeconds seconds)).map (fun longer => ⟨longer, direction⟩) = .ok change) :
    Moved ttl seconds change := by
  obtain ⟨longer, sum, rfl⟩ := map_eq_ok done
  have added : (Duration.ofSeconds seconds).nanos = seconds * 1000000000 :=
    Duration.nanos_ofNanos (by unfold Duration.limit; omega)
  have nanos := Duration.add_eq_ok sum
  rw [added] at nanos
  refine ⟨?_, fun _ => Int.natCast_nonneg _, fun down => absurd down notDown⟩
  dsimp only
  omega

theorem proposal_moved (done : proposal ttl rate = .ok change) :
    Moved ttl (stepSeconds ttl rate) change := by
  unfold proposal at done
  unfold stepSeconds
  split at done
  · rename_i many
    rw [if_pos many]
    exact moved_add le_rfl (by simp) done
  rename_i notMany
  rw [if_neg notMany]
  split at done
  · rename_i more
    rw [if_pos more]
    exact moved_add (by norm_num) (by simp) done
  rename_i notMore
  rw [if_neg notMore]
  split at done
  · rename_i less
    rw [if_pos less]
    split at done
    · rename_i long
      rw [if_pos long]
      obtain ⟨shorter, difference, rfl⟩ := map_eq_ok done
      have nanos := Duration.sub_eq_ok difference
      have taken : (Duration.ofSeconds 15).nanos = 15000000000 := rfl
      rw [taken] at nanos
      refine ⟨?_, by simp, by simp⟩
      dsimp only
      omega
    · rename_i short
      rw [if_neg short]
      cases done
      exact ⟨by simp, by simp, by simp⟩
  · rename_i notLess
    rw [if_neg notLess]
    exact moved_add (by norm_num) (by simp) done

/-- Across the borders of the four bands too. -/
theorem stepSeconds_mono [ComparedScalar α] (le : rate ≤ higher) :
    stepSeconds ttl rate ≤ stepSeconds ttl higher := by
  have many : 0.4 < rate → 0.4 < higher := fun above => lt_of_lt_of_le above le
  have more : 0.2 < rate → 0.2 < higher := fun above => lt_of_lt_of_le above le
  have less : higher < 0.05 → rate < 0.05 := fun below => lt_of_le_of_lt le below
  unfold stepSeconds
  grind

theorem step_moved (done : step ttl rate w.toTtlBounds = .ok change) :
    ∃ proposed, Moved ttl (stepSeconds ttl rate) proposed ∧
      change = { proposed with ttl := w.nearest proposed.ttl } := by
  obtain ⟨proposed, proposes, cuts⟩ := bind_eq_ok done
  refine ⟨proposed, proposal_moved proposes, ?_⟩
  rw [w.clamp_eq] at cuts
  exact (Except.ok.inj cuts).symm

theorem step_mono [ComparedScalar α] (le : rate ≤ higher)
    (first : step ttl rate w.toTtlBounds = .ok lower)
    (second : step ttl higher w.toTtlBounds = .ok upper) : lower.ttl ≤ upper.ttl := by
  obtain ⟨a, movedLower, rfl⟩ := step_moved first
  obtain ⟨b, movedUpper, rfl⟩ := step_moved second
  have seconds : stepSeconds ttl rate ≤ stepSeconds ttl higher := stepSeconds_mono le
  have nanosLower := movedLower.nanos
  have nanosUpper := movedUpper.nanos
  refine w.nearest_mono ?_
  rw [Duration.le_def]
  omega

/-! ### The proportional controller -/

section Proportional

variable [RoundedScalar α]

theorem inOrder_factor (first : UpTo 0 rate) (second : UpTo 0 higher) (le : rate ≤ higher)
    (learning : UpTo 0 learningRate) :
    InOrder 3 (1.0 + (rate - targetRate) * learningRate * 1.5)
      (1.0 + (higher - targetRate) * learningRate * 1.5) := by
  have rates : InOrder 0 rate higher := ⟨first.within, second.within, le⟩
  have target : Within 0 (targetRate : α) := within_decimal (by norm_num)
  have gain : UpTo 1 (1.5 : α) := upTo_decimal (by norm_num)
  have distances := rates.sub target (by norm_num)
  have products := (distances.mul learning (by norm_num)).mul gain (by norm_num)
  exact products.add_left (within_one.weaken (by norm_num)) (by norm_num)

theorem scale_mono [ComparedScalar α] (first : UpTo 0 rate) (second : UpTo 0 higher)
    (le : rate ≤ higher) (learning : UpTo 0 learningRate)
    (less : scale ttl rate learningRate w.toTtlBounds = .ok lower)
    (more : scale ttl higher learningRate w.toTtlBounds = .ok upper) : lower.ttl ≤ upper.ttl := by
  have limited := ttl.nanos_lt
  have seconds : UpTo 64 (ttl.toSeconds : α) := Duration.toSeconds_upTo (by omega)
  have scaled := (inOrder_factor first second le learning).mul_left seconds (by norm_num)
  obtain ⟨a, cutLower, own⟩ := bind_eq_ok less
  obtain ⟨b, cutUpper, other⟩ := bind_eq_ok more
  cases own
  cases other
  exact w.clampSeconds_mono scaled.le cutLower cutUpper

end Proportional

/-! ### What both promise -/

/-- A new TTL inside the bounds, and not against the direction that is reported. -/
structure Honest (w : TtlWindow) (ttl : Duration) (change : TtlChange) : Prop where
  inside : w.contains change.ttl = true
  increase : change.direction = some .increase → ttl ≤ change.ttl
  decrease : change.direction = some .decrease → change.ttl ≤ ttl

/-- An honest change that reports every direction it takes, and only that. -/
structure Exact (w : TtlWindow) (ttl : Duration) (change : TtlChange) : Prop
    extends Honest w ttl change where
  increases : change.direction = some .increase ↔ ttl < change.ttl
  decreases : change.direction = some .decrease ↔ change.ttl < ttl
  stays : change.direction = none ↔ change.ttl = ttl

/-- A controller that answers every duplicate rate fairly, and a higher one by no shorter TTL. -/
structure Steers (Fair : TtlChange → Prop) (controller : α → Except Fault TtlChange) : Prop where
  answers : ∀ rate, ∃ change, controller rate = .ok change ∧ Fair change
  mono : ∀ rate higher lower upper, UpTo 0 rate → UpTo 0 higher → rate ≤ higher →
    controller rate = .ok lower → controller higher = .ok upper → lower.ttl ≤ upper.ttl

theorem step_honest (inside : w.contains ttl = true)
    (done : step ttl rate w.toTtlBounds = .ok change) : Honest w ttl change := by
  have own := TtlWindow.nearest_of_contains inside
  obtain ⟨proposed, moved, rfl⟩ := step_moved done
  have nanos := moved.nanos
  refine ⟨contains_step done, fun up => ?_, fun down => ?_⟩
  · have seconds := moved.increase up
    have longer : ttl ≤ proposed.ttl := by
      rw [Duration.le_def]
      omega
    calc ttl = w.nearest ttl := own.symm
      _ ≤ w.nearest proposed.ttl := w.nearest_mono longer
  · have seconds := moved.decrease down
    have shorter : proposed.ttl ≤ ttl := by
      rw [Duration.le_def]
      omega
    calc w.nearest proposed.ttl ≤ w.nearest ttl := w.nearest_mono shorter
      _ = ttl := own

theorem scale_exact (done : scale ttl rate learningRate w.toTtlBounds = .ok change) :
    Exact w ttl change := by
  have inside := contains_scale w.min_le_max done
  obtain ⟨next, _, last⟩ := bind_eq_ok done
  cases last
  exact
    { inside
      increase := fun up => Nat.le_of_lt (Direction.between?_increase.1 up)
      decrease := fun down => Nat.le_of_lt (Direction.between?_decrease.1 down)
      increases := Direction.between?_increase
      decreases := Direction.between?_decrease
      stays := Direction.between?_none }

/-- Both controllers answer every rate by a TTL inside the bounds. The step controller reports no
direction that it does not take; the proportional one reports exactly what it does. A higher rate
never leads to a shorter TTL, across the bands of the one and through the roundings of the
other. -/
theorem controllers_steer [RoundedScalar α] [ComparedScalar α] (short : w.max.nanos < longestTtl)
    (inside : w.contains ttl = true) (learning : UpTo 0 learningRate) :
    Steers (Honest w ttl) (fun rate : α => step ttl rate w.toTtlBounds) ∧
      Steers (Exact w ttl) (fun rate : α => scale ttl rate learningRate w.toTtlBounds) := by
  constructor
  · refine ⟨fun rate => ?_, fun _ _ _ _ _ _ le first second => step_mono le first second⟩
    have brief : ttl.nanos ≤ longestTtl :=
      Nat.le_trans (TtlBounds.contains_iff.1 inside).2 short.le
    obtain ⟨change, done⟩ := step_ok w brief rate
    exact ⟨change, done, step_honest inside done⟩
  · refine ⟨fun rate => ?_, fun _ _ _ _ low high le first second =>
      scale_mono low high le learning first second⟩
    obtain ⟨change, done⟩ := scale_ok short.le ttl rate learningRate
    exact ⟨change, done, scale_exact done⟩

theorem controllers_steer_minutes : TtlWindow.minutesWindow.max.nanos < longestTtl ∧
    TtlWindow.minutesWindow.contains (.ofMinutes 5) = true ∧ UpTo 0 (0.1 : Float) ∧
    Steers (Honest .minutesWindow (.ofMinutes 5)) (fun rate : Float =>
      step (.ofMinutes 5) rate TtlWindow.minutesWindow.toTtlBounds) ∧
    Steers (Exact .minutesWindow (.ofMinutes 5)) (fun rate : Float =>
      scale (.ofMinutes 5) rate 0.1 TtlWindow.minutesWindow.toTtlBounds) := by
  have short : TtlWindow.minutesWindow.max.nanos < longestTtl := by decide
  have inside : TtlWindow.minutesWindow.contains (.ofMinutes 5) = true := by decide
  have learning : UpTo 0 (0.1 : Float) := upTo_decimal (by norm_num)
  exact ⟨short, inside, learning, controllers_steer short inside learning⟩

end TtlChange

end GossipGate
