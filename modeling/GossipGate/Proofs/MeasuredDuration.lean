import GossipGate.Proofs.Estimates
import GossipGate.Proofs.NearestNanos

namespace GossipGate

variable {α : Type} [Scalar α] [RoundedScalar α]

open Scalar

namespace Duration

variable {d : Duration} {s w m : Rat} {k : Nat}

theorem seconds_add_subsecond (d : Duration) :
    (d.seconds : Rat) + d.subsecond / 1000000000 = d.nanos / 1000000000 := by
  have parts : d.seconds * 1000000000 + d.subsecond = d.nanos := by
    unfold seconds subsecond
    omega
  have cast : (d.seconds : Rat) * 1000000000 + d.subsecond = d.nanos := by exact_mod_cast parts
  linarith

theorem subsecond_le_one (d : Duration) : (d.subsecond / 1000000000 : Rat) ≤ 1 := by
  have proper : d.subsecond < 1000000000 := Nat.mod_lt _ (by norm_num)
  rw [div_le_one (by norm_num)]
  exact_mod_cast proper.le

/-- The three roundings on the way from a duration to a number of seconds: of the whole seconds, of
the part beyond them and of the sum. -/
structure Measures (d : Duration) (α : Type) [Scalar α] [RoundedScalar α] (s w m : Rat) :
    Prop where
  whole : (RoundedScalar.rounding α).Rounds d.seconds s
  part : (RoundedScalar.rounding α).Rounds (d.subsecond / 1000000000) w
  sum : (RoundedScalar.rounding α).Rounds (s + w) m
  value : value? (d.toSeconds : α) = some m

theorem Measures.whole_nonneg (own : d.Measures α s w m) : 0 ≤ s :=
  own.whole.nonneg (Nat.cast_nonneg _)

theorem Measures.part_nonneg (own : d.Measures α s w m) : 0 ≤ w :=
  own.part.nonneg (by positivity)

theorem Measures.part_le_one (own : d.Measures α s w m) : w ≤ 1 :=
  own.part.mono Rounding.rounds_one d.subsecond_le_one

theorem Measures.nonneg (own : d.Measures α s w m) : 0 ≤ m :=
  own.sum.nonneg (add_nonneg own.whole_nonneg own.part_nonneg)

theorem Measures.part_eq_zero (own : d.Measures α s w m) (whole : d.subsecond = 0) : w = 0 := by
  have part := own.part
  rw [whole, Nat.cast_zero, zero_div] at part
  exact part.unique Rounding.rounds_zero

/-- Every duration is measured: neither its parts nor their sum is too large for a number. -/
theorem exists_measures (d : Duration) : ∃ s w m, d.Measures α s w m := by
  have limited := d.nanos_lt
  have short : d.seconds ≤ 2 ^ 64 := by
    unfold seconds
    omega
  have proper : d.subsecond < 1000000000 := Nat.mod_lt _ (by norm_num)
  obtain ⟨s, seconds, whole⟩ := RoundedScalar.ofNat (α := α) short (by norm_num)
  obtain ⟨u, dividend, exact⟩ :=
    RoundedScalar.ofNat (α := α) (n := d.subsecond) (k := 30) (by omega) (by norm_num)
  rw [exact.unique (Rounding.rounds_natCast (by omega))] at dividend
  have divisor : value? (1000000000.0 : α) = some ((1000000000 : Nat) : Rat) :=
    value?_decimal (Rounding.rounds_natCast (by norm_num)) (by norm_num) (by norm_num)
      (by norm_num)
  obtain ⟨w, rest, part⟩ := RoundedScalar.div (k := 0) dividend divisor (by norm_num) (by
    rw [abs_of_nonneg (by positivity), pow_zero]
    exact_mod_cast d.subsecond_le_one) (by norm_num)
  push_cast at part
  have least : 0 ≤ s := whole.nonneg (Nat.cast_nonneg _)
  have most : s ≤ 2 ^ 64 := whole.le_two_pow (by exact_mod_cast short)
  have positive : 0 ≤ w := part.nonneg (by positivity)
  have le_one : w ≤ 1 := part.mono Rounding.rounds_one d.subsecond_le_one
  obtain ⟨m, value, sum⟩ := RoundedScalar.add (k := 65) seconds rest (by
    rw [abs_of_nonneg (by linarith)]
    linarith) (by norm_num)
  exact ⟨s, w, m, whole, part, sum, value⟩

/-- Where there is a part beyond the whole seconds, there is one more second to the bound. -/
theorem Measures.parts_le (own : d.Measures α s w m) (short : d.nanos ≤ 2 ^ k * 1000000000) :
    (d.seconds : Rat) + w ≤ 2 ^ k := by
  have whole : d.seconds ≤ 2 ^ k := by
    unfold seconds
    omega
  rcases whole.lt_or_eq with less | same
  · have next : (d.seconds : Rat) + 1 ≤ 2 ^ k := by exact_mod_cast less
    linarith [own.part_le_one]
  · have nothing : d.subsecond = 0 := by
      unfold seconds subsecond at *
      omega
    rw [own.part_eq_zero nothing, add_zero]
    exact_mod_cast whole

/-- No rounding carries the number of seconds over a power of two. -/
theorem Measures.le_two_pow (own : d.Measures α s w m) (short : d.nanos ≤ 2 ^ k * 1000000000) :
    m ≤ 2 ^ k :=
  own.whole.sum_le own.sum (Nat.cast_nonneg _) own.part_nonneg (own.parts_le short)

theorem toSeconds_upTo (short : d.nanos ≤ 2 ^ k * 1000000000) : UpTo k (d.toSeconds : α) := by
  obtain ⟨s, w, m, own⟩ := d.exists_measures (α := α)
  exact ⟨m, own.value, own.nonneg, own.le_two_pow short⟩

omit [RoundedScalar α] in
/-- A number of seconds that is not negative and not too large is a duration. -/
theorem fromSeconds_of_upTo {x : α} (upTo : UpTo k x) (few : k < 64) :
    ∃ d, fromSeconds x = .ok d ∧ d.nanos ≤ 2 ^ k * 1000000000 := by
  obtain ⟨v, value, positive, le⟩ := upTo
  have nanos : nearestNanos v ≤ 2 ^ k * 1000000000 := by
    refine nearestNanos_le positive ?_
    push_cast
    exact mul_le_mul_of_nonneg_right le (by norm_num)
  have power : 2 ^ k * 1000000000 ≤ 2 ^ 63 * 1000000000 :=
    Nat.mul_le_mul_right _ (Nat.pow_le_pow_right (by norm_num) (by omega))
  have short : nearestNanos v < limit := lt_of_le_of_lt (nanos.trans power) (by decide)
  obtain ⟨d, measured, own⟩ := fromSeconds_ok value positive short
  exact ⟨d, measured, own ▸ nanos⟩

end Duration

end GossipGate
