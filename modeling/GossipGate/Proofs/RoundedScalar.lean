import GossipGate.Proofs.DoubleArithmetic

namespace GossipGate

/-- What becomes of the exact result of an operation: it stays, or it is rounded to a double. -/
inductive Rounding where
  | exact | nearest

namespace Rounding

def Rounds : Rounding → Rat → Rat → Prop
  | exact, q, v => v = q
  | nearest, q, v => Nearest q v

variable {r : Rounding} {p q v w : Rat} {k : Nat}

theorem rounds_zero : r.Rounds 0 0 := by
  cases r
  · rfl
  · exact nearest_zero

theorem rounds_two_pow : r.Rounds (2 ^ k) (2 ^ k) := by
  cases r
  · rfl
  · have own := nearest_two_pow (k := k) (by omega)
    rwa [zpow_natCast] at own

theorem rounds_natCast {n : Nat} (short : n < 2 ^ 53) : r.Rounds n n := by
  cases r
  · rfl
  · exact nearest_natCast short

theorem rounds_one : r.Rounds 1 1 := rounds_two_pow (k := 0)

theorem Rounds.neg (rounds : r.Rounds q v) : r.Rounds (-q) (-v) := by
  cases r
  · exact congrArg Neg.neg rounds
  · exact Nearest.neg rounds

/-- Rounding keeps the order. -/
theorem Rounds.mono (left : r.Rounds p v) (right : r.Rounds q w) (le : p ≤ q) : v ≤ w := by
  cases r
  · rwa [show v = p from left, show w = q from right]
  · exact Nearest.mono left right le

theorem Rounds.unique (left : r.Rounds q v) (right : r.Rounds q w) : v = w :=
  le_antisymm (left.mono right le_rfl) (right.mono left le_rfl)

theorem Rounds.nonneg (rounds : r.Rounds q v) (positive : 0 ≤ q) : 0 ≤ v :=
  rounds_zero.mono rounds positive

theorem Rounds.le_two_pow (rounds : r.Rounds q v) (le : q ≤ 2 ^ k) : v ≤ 2 ^ k :=
  rounds.mono rounds_two_pow le

theorem Rounds.bounded (rounds : r.Rounds q v) (le : |q| ≤ 2 ^ k) : |v| ≤ 2 ^ k := by
  obtain ⟨low, high⟩ := abs_le.1 le
  exact abs_le.2 ⟨rounds_two_pow.neg.mono rounds low, rounds.le_two_pow high⟩

/-- Doubling rounds nothing away. -/
theorem Rounds.scaled (own : r.Rounds q q) : r.Rounds (2 ^ k * q) (2 ^ k * q) := by
  cases r
  · rfl
  · have twice := Nearest.scaled own (k := k) (by omega)
    rwa [zpow_natCast] at twice

/-- Rounding the first part of a sum does not carry the rounded sum over a power of two. -/
theorem Rounds.sum_le {s rest s' : Rat} (first : r.Rounds s s') (sum : r.Rounds (s' + rest) v)
    (positive : 0 ≤ s) (more : 0 ≤ rest) (le : s + rest ≤ 2 ^ k) : v ≤ 2 ^ k := by
  cases r
  · rwa [show v = s' + rest from sum, show s' = s from first]
  · rw [← zpow_natCast] at le ⊢
    exact Nearest.sum_le first sum (by omega) positive more le

/-- The weights of a mean, the first one rounded, do not add up to more than one. -/
theorem Rounds.weights_le {weight other total : Rat} (complement : r.Rounds (1 - weight) other)
    (sum : r.Rounds total v) (bounded : total ≤ 2 ^ k * other + 2 ^ k * weight)
    (positive : 0 ≤ weight) (le : weight ≤ 1) : v ≤ 2 ^ k := by
  cases r
  · rw [show v = total from sum]
    rw [show other = 1 - weight from complement] at bounded
    linarith
  · rw [← zpow_natCast] at bounded ⊢
    exact Nearest.weights_le complement sum bounded (by omega) positive le

/-- A number whose value is what an exact result is rounded to. -/
def Gives {α : Type} [Scalar α] (r : Rounding) (q : Rat) (x : α) : Prop :=
  ∃ v, Scalar.value? x = some v ∧ r.Rounds q v

end Rounding

/-- Numbers with a value are calculated with by rounding the exact result, as long as it is not too
large, and compare by their values. -/
class RoundedScalar (α : Type) [Scalar α] where
  rounding : Rounding
  rounds_value {x : α} {p : Rat} : Scalar.value? x = some p → rounding.Rounds p p
  add {x y : α} {p q : Rat} {k : Nat} : Scalar.value? x = some p → Scalar.value? y = some q →
    |p + q| ≤ 2 ^ k → k ≤ 1000 → rounding.Gives (p + q) (x + y)
  sub {x y : α} {p q : Rat} {k : Nat} : Scalar.value? x = some p → Scalar.value? y = some q →
    |p - q| ≤ 2 ^ k → k ≤ 1000 → rounding.Gives (p - q) (x - y)
  mul {x y : α} {p q : Rat} {k : Nat} : Scalar.value? x = some p → Scalar.value? y = some q →
    |p * q| ≤ 2 ^ k → k ≤ 1000 → rounding.Gives (p * q) (x * y)
  div {x y : α} {p q : Rat} {k : Nat} : Scalar.value? x = some p → Scalar.value? y = some q →
    q ≠ 0 → |p / q| ≤ 2 ^ k → k ≤ 1000 → rounding.Gives (p / q) (x / y)
  neg {x : α} {p : Rat} {k : Nat} : Scalar.value? x = some p → |p| ≤ 2 ^ k → k ≤ 1000 →
    Scalar.value? (-x) = some (-p)
  ofNat {n k : Nat} : n ≤ 2 ^ k → k ≤ 1000 → rounding.Gives n (Scalar.ofNat n : α)
  decimal {m e : Nat} : m < 2 ^ 53 → e ≤ 22 →
    rounding.Gives (m / 10 ^ e) (OfScientific.ofScientific m true e : α)
  lt_iff {x y : α} {p q : Rat} : Scalar.value? x = some p → Scalar.value? y = some q →
    (x < y ↔ p < q)
  le_iff {x y : α} {p q : Rat} : Scalar.value? x = some p → Scalar.value? y = some q →
    (x ≤ y ↔ p ≤ q)
  beq_iff {x y : α} {p q : Rat} : Scalar.value? x = some p → Scalar.value? y = some q →
    ((x == y) = true ↔ p = q)
  between {x y z : α} {p q : Rat} : Scalar.value? x = some p → Scalar.value? y = some q →
    x < z → z ≤ y → ∃ v, Scalar.value? z = some v

/-- Exact arithmetic rounds nothing. -/
@[reducible] def roundedScalar_exact (exp : Rat → Rat) : @RoundedScalar Rat (exactScalar exp) :=
  let _ := exactScalar exp
  { rounding := .exact
    rounds_value := fun _ => rfl
    add := by
      rintro x y _ _ _ ⟨⟩ ⟨⟩ _ _
      exact ⟨_, rfl, rfl⟩
    sub := by
      rintro x y _ _ _ ⟨⟩ ⟨⟩ _ _
      exact ⟨_, rfl, rfl⟩
    mul := by
      rintro x y _ _ _ ⟨⟩ ⟨⟩ _ _
      exact ⟨_, rfl, rfl⟩
    div := by
      rintro x y _ _ _ ⟨⟩ ⟨⟩ _ _ _
      exact ⟨_, rfl, rfl⟩
    neg := by
      rintro x _ _ ⟨⟩ _ _
      rfl
    ofNat := fun _ _ => ⟨_, rfl, rfl⟩
    decimal := by
      intro m e _ _
      refine ⟨_, rfl, ?_⟩
      show Rat.ofScientific m true e = _
      rw [Rat.ofScientific_true_def, Rat.mkRat_eq_div]
      push_cast
      rfl
    lt_iff := by
      rintro x y _ _ ⟨⟩ ⟨⟩
      rfl
    le_iff := by
      rintro x y _ _ ⟨⟩ ⟨⟩
      rfl
    beq_iff := by
      rintro x y _ _ ⟨⟩ ⟨⟩
      exact beq_iff_eq
    between := fun _ _ _ _ => ⟨_, rfl⟩ }

/-- Doubles round to the nearest. -/
instance : RoundedScalar Float where
  rounding := .nearest
  rounds_value := nearest_of_value?
  add left right bounded few := roundsToFloat_add left right (bounded.trans (two_pow_le few))
  sub left right bounded few := roundsToFloat_sub left right (bounded.trans (two_pow_le few))
  mul left right bounded few := roundsToFloat_mul left right (bounded.trans (two_pow_le few))
  div left right other bounded few :=
    roundsToFloat_div left right other (bounded.trans (two_pow_le few))
  neg own bounded few := value?_neg own (bounded.trans (two_pow_le few))
  ofNat short few := roundsToFloat_ofNat short few
  decimal short few := roundsToFloat_decimal short few
  lt_iff := lt_iff_of_value?
  le_iff := le_iff_of_value?
  beq_iff := beq_iff_of_value?
  between := exists_value?_between

end GossipGate
