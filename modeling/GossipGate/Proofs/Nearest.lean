import Mathlib.Algebra.Order.Archimedean.Basic
import Mathlib.Algebra.Order.Field.Power
import Mathlib.Algebra.Order.Floor.Semiring
import Mathlib.Algebra.Order.Ring.Abs
import Mathlib.Data.Int.Log
import Mathlib.Data.Rat.Floor
import Mathlib.Tactic.FieldSimp
import Mathlib.Tactic.Linarith
import Mathlib.Tactic.NormNum
import Mathlib.Tactic.Positivity
import Mathlib.Tactic.Ring

namespace GossipGate

/-- A whole number next to a rational one; of two that are equally near, the even one. -/
structure NextWhole (q : Rat) (n : Int) : Prop where
  near : |q - n| ≤ 1 / 2
  even : |q - n| = 1 / 2 → Even n

theorem nextWhole_of_lt {q : Rat} {n : Int} (near : |q - n| < 1 / 2) : NextWhole q n where
  near := near.le
  even tie := absurd tie near.ne

theorem nextWhole_self (n : Int) : NextWhole n n := by
  refine nextWhole_of_lt ?_
  rw [sub_self, abs_zero]
  norm_num

theorem NextWhole.neg {q : Rat} {n : Int} (next : NextWhole q n) : NextWhole (-q) (-n) := by
  have same : |(-q : Rat) - ((-n : Int) : Rat)| = |q - n| := by
    rw [← abs_neg]
    congr 1
    push_cast
    ring
  refine ⟨?_, ?_⟩
  · rw [same]
    exact next.near
  · rw [same]
    intro tie
    exact (next.even tie).neg

theorem NextWhole.mono {p q : Rat} {m n : Int} (left : NextWhole p m) (right : NextWhole q n)
    (le : p ≤ q) : m ≤ n := by
  by_contra above
  have step : (n : Rat) + 1 ≤ m := by exact_mod_cast (by omega : n + 1 ≤ m)
  have low := abs_le.1 left.near
  have high := abs_le.1 right.near
  -- Both lie halfway between two neighbours, of which only one is even.
  have atLeft : p - m = -(1 / 2) := by linarith [low.1, high.2]
  have atRight : q - n = 1 / 2 := by linarith [low.1, high.2]
  have follows : (m : Rat) = n + 1 := by linarith [low.1, high.2]
  have whole : m = n + 1 := by exact_mod_cast follows
  have evenLeft := left.even (by rw [atLeft, abs_neg]; norm_num)
  have evenRight := right.even (by rw [atRight]; norm_num)
  rw [whole, Int.even_add_one] at evenLeft
  exact evenLeft evenRight

/-- The exponent of the last of 53 bits, at least that of the smallest double. -/
def gridExponent (q : Rat) : Int := if q = 0 then -1074 else max (Int.log 2 |q| - 52) (-1074)

theorem gridExponent_neg (q : Rat) : gridExponent (-q) = gridExponent q := by
  simp only [gridExponent, abs_neg, neg_eq_zero]

theorem gridExponent_ge (q : Rat) : -1074 ≤ gridExponent q := by
  unfold gridExponent
  split
  · exact le_rfl
  · exact le_max_right _ _

theorem log_le_gridExponent {q : Rat} (other : q ≠ 0) : Int.log 2 |q| - 52 ≤ gridExponent q := by
  rw [gridExponent, if_neg other]
  exact le_max_left _ _

theorem abs_lt_gridExponent (q : Rat) : |q| < 2 ^ (gridExponent q + 53) := by
  by_cases zero : q = 0
  · rw [zero, abs_zero]
    positivity
  · have above := Int.lt_zpow_succ_log_self (b := 2) (by norm_num) |q|
    have exponent := log_le_gridExponent zero
    exact lt_of_lt_of_le above (zpow_le_zpow_right₀ (by norm_num) (by omega))

theorem gridExponent_le_abs {q : Rat} (normal : -1074 < gridExponent q) :
    2 ^ (gridExponent q + 52) ≤ |q| := by
  have other : q ≠ 0 := by
    rintro rfl
    simp [gridExponent] at normal
  have exponent : gridExponent q = Int.log 2 |q| - 52 := by
    simp only [gridExponent, if_neg other, lt_max_iff, lt_irrefl, or_false] at normal ⊢
    exact max_eq_left normal.le
  have below := Int.zpow_log_le_self (b := 2) (by norm_num) (abs_pos.2 other)
  have same : gridExponent q + 52 = Int.log 2 |q| := by omega
  rw [same]
  exact_mod_cast below

theorem gridExponent_le {q : Rat} {k : Int} (small : -1021 ≤ k) (below : |q| < 2 ^ k) :
    gridExponent q ≤ k - 53 := by
  by_contra large
  have normal : -1074 < gridExponent q := by omega
  have least := gridExponent_le_abs normal
  have more : (2 : Rat) ^ k ≤ 2 ^ (gridExponent q + 52) :=
    zpow_le_zpow_right₀ (by norm_num) (by omega)
  linarith

theorem gridExponent_ge_of_le {q : Rat} {k : Int} (low : 2 ^ k ≤ q) :
    max (k - 52) (-1074) ≤ gridExponent q := by
  have positive : 0 < q := lt_of_lt_of_le (by positivity) low
  have least : k ≤ Int.log 2 q := (Int.zpow_le_iff_le_log (by norm_num) positive).1 (by
    exact_mod_cast low)
  rw [gridExponent, if_neg positive.ne', abs_of_pos positive]
  omega

theorem gridExponent_of_log {q : Rat} {k : Int} (low : 2 ^ k ≤ q) (high : q < 2 ^ (k + 1)) :
    gridExponent q = max (k - 52) (-1074) := by
  have positive : 0 < q := lt_of_lt_of_le (by positivity) low
  have least := gridExponent_ge_of_le low
  have most : Int.log 2 q < k + 1 := (Int.lt_zpow_iff_log_lt (by norm_num) positive).1 (by
    exact_mod_cast high)
  rw [gridExponent, if_neg positive.ne', abs_of_pos positive] at least ⊢
  omega

theorem gridExponent_mono {p q : Rat} (le : |p| ≤ |q|) : gridExponent p ≤ gridExponent q := by
  by_contra less
  have normal : -1074 < gridExponent p := lt_of_le_of_lt (gridExponent_ge q) (not_le.1 less)
  have low := gridExponent_le_abs normal
  have high := abs_lt_gridExponent q
  have more : (2 : Rat) ^ (gridExponent q + 53) ≤ 2 ^ (gridExponent p + 52) :=
    zpow_le_zpow_right₀ (by norm_num) (by omega)
  linarith

/-- On its grid a number is at most 2^53, and rounding does not change that. -/
theorem NextWhole.le_mantissa {q : Rat} {n : Int} (next : NextWhole (q / 2 ^ gridExponent q) n) :
    n ≤ 2 ^ 53 := by
  refine next.mono (nextWhole_self (2 ^ 53)) ?_
  have unit : (0 : Rat) < 2 ^ gridExponent q := by positivity
  have less := abs_lt_gridExponent q
  rw [zpow_add₀ (by norm_num)] at less
  have own := le_abs_self q
  rw [div_le_iff₀ unit]
  push_cast
  norm_num at less ⊢
  linarith

theorem NextWhole.mantissa_le {q : Rat} {n : Int} (next : NextWhole (q / 2 ^ gridExponent q) n)
    (positive : 0 ≤ q) (normal : -1074 < gridExponent q) : 2 ^ 52 ≤ n := by
  refine (nextWhole_self (2 ^ 52)).mono next ?_
  have unit : (0 : Rat) < 2 ^ gridExponent q := by positivity
  have more := gridExponent_le_abs normal
  rw [abs_of_nonneg positive, zpow_add₀ (by norm_num)] at more
  rw [le_div_iff₀ unit]
  push_cast
  norm_num at more ⊢
  linarith

/-- The number of at most 53 bits next to a rational one, as IEEE doubles have it where they do not
overflow. -/
def Nearest (q v : Rat) : Prop :=
  ∃ n, NextWhole (q / 2 ^ gridExponent q) n ∧ v = n * 2 ^ gridExponent q

theorem Nearest.neg {q v : Rat} (nearest : Nearest q v) : Nearest (-q) (-v) := by
  obtain ⟨n, next, rfl⟩ := nearest
  refine ⟨-n, ?_, ?_⟩
  · rw [gridExponent_neg, neg_div]
    exact next.neg
  · rw [gridExponent_neg]
    push_cast
    ring

/-- A multiple of the last bit stays what it is. -/
theorem nearest_of_grid {q : Rat} {n : Int} (onGrid : q = n * 2 ^ gridExponent q) :
    Nearest q q := by
  refine ⟨n, ?_, onGrid⟩
  have positive : (0 : Rat) < 2 ^ gridExponent q := by positivity
  have quotient : q / 2 ^ gridExponent q = n := by
    rw [div_eq_iff positive.ne']
    exact onGrid
  rw [quotient]
  exact nextWhole_self n

/-- What a double can hold stays what it is. -/
theorem nearest_mantissa {m : Int} {e : Int} (short : |m| < 2 ^ 53) (small : -1074 ≤ e) :
    Nearest (m * 2 ^ e) (m * 2 ^ e) := by
  have below : |(m : Rat) * 2 ^ e| < 2 ^ (e + 53) := by
    have positive : (0 : Rat) < 2 ^ e := by positivity
    have bound : (|m| : Rat) < 2 ^ (53 : Nat) := by exact_mod_cast short
    rw [abs_mul, abs_of_pos positive, zpow_add₀ (by norm_num), mul_comm ((2 : Rat) ^ e)]
    exact mul_lt_mul_of_pos_right (by exact_mod_cast bound) positive
  have grid := gridExponent_le (by omega) below
  obtain ⟨shift, eq⟩ := Int.eq_ofNat_of_zero_le
    (show 0 ≤ e - gridExponent ((m : Rat) * 2 ^ e) by omega)
  refine nearest_of_grid (n := m * 2 ^ shift) ?_
  push_cast
  rw [mul_assoc, ← zpow_natCast, ← zpow_add₀ (by norm_num)]
  congr 2
  omega

/-- Doubling keeps what a double can hold. -/
theorem Nearest.scaled {q : Rat} (own : Nearest q q) {k : Int} (up : 0 ≤ k) :
    Nearest (2 ^ k * q) (2 ^ k * q) := by
  obtain ⟨n, _, onGrid⟩ := own
  have unit : (0 : Rat) < 2 ^ gridExponent q := by positivity
  have short : |n| < 2 ^ 53 := by
    have below := abs_lt_gridExponent q
    nth_rewrite 1 [onGrid] at below
    rw [abs_mul, abs_of_pos unit, zpow_add₀ (by norm_num), mul_comm ((2 : Rat) ^ gridExponent q)]
      at below
    have cast := lt_of_mul_lt_mul_right below unit.le
    exact_mod_cast cast
  have least := gridExponent_ge q
  have same : (2 : Rat) ^ k * q = n * 2 ^ (gridExponent q + k) := by
    nth_rewrite 1 [onGrid]
    rw [zpow_add₀ (by norm_num)]
    ring
  rw [same]
  exact nearest_mantissa short (by omega)

theorem nearest_zero : Nearest 0 0 := by
  simpa using nearest_mantissa (m := 0) (e := 0) (by norm_num) (by norm_num)

theorem nearest_two_pow {k : Int} (small : -1074 ≤ k) : Nearest (2 ^ k) (2 ^ k) := by
  simpa using nearest_mantissa (m := 1) (e := k) (by norm_num) small

theorem nearest_natCast {n : Nat} (short : n < 2 ^ 53) : Nearest n n := by
  have own := nearest_mantissa (m := n) (e := 0) (by rw [Nat.abs_cast]; exact_mod_cast short)
    (by norm_num)
  rwa [zpow_zero, mul_one, Int.cast_natCast] at own

/-- From one binade to the next the power of two between them is passed by neither. -/
theorem Nearest.le_top {q v : Rat} (nearest : Nearest q v) : v ≤ 2 ^ (gridExponent q + 53) := by
  obtain ⟨n, next, rfl⟩ := nearest
  have unit : (0 : Rat) < 2 ^ gridExponent q := by positivity
  rw [zpow_add₀ (by norm_num), mul_comm ((2 : Rat) ^ gridExponent q)]
  refine mul_le_mul_of_nonneg_right ?_ unit.le
  exact_mod_cast next.le_mantissa

theorem Nearest.bottom_le {q v : Rat} (nearest : Nearest q v) (positive : 0 ≤ q)
    (normal : -1074 < gridExponent q) : 2 ^ (gridExponent q + 52) ≤ v := by
  obtain ⟨n, next, rfl⟩ := nearest
  have unit : (0 : Rat) < 2 ^ gridExponent q := by positivity
  rw [zpow_add₀ (by norm_num), mul_comm ((2 : Rat) ^ gridExponent q)]
  refine mul_le_mul_of_nonneg_right ?_ unit.le
  exact_mod_cast next.mantissa_le positive normal

theorem Nearest.nonneg {q v : Rat} (nearest : Nearest q v) (positive : 0 ≤ q) : 0 ≤ v := by
  obtain ⟨n, next, rfl⟩ := nearest
  have unit : (0 : Rat) < 2 ^ gridExponent q := by positivity
  have le : 0 ≤ n := (nextWhole_self 0).mono next (by push_cast; positivity)
  have cast : (0 : Rat) ≤ n := by exact_mod_cast le
  positivity

theorem Nearest.mono_of_nonneg {p q v w : Rat} (left : Nearest p v) (right : Nearest q w)
    (positive : 0 ≤ p) (le : p ≤ q) : v ≤ w := by
  have grids : gridExponent p ≤ gridExponent q := by
    refine gridExponent_mono ?_
    rw [abs_of_nonneg positive, abs_of_nonneg (positive.trans le)]
    exact le
  rcases grids.lt_or_eq with lower | same
  · have normal : -1074 < gridExponent q := lt_of_le_of_lt (gridExponent_ge p) lower
    have step : (2 : Rat) ^ (gridExponent p + 53) ≤ 2 ^ (gridExponent q + 52) :=
      zpow_le_zpow_right₀ (by norm_num) (by omega)
    exact (left.le_top.trans step).trans (right.bottom_le (positive.trans le) normal)
  · obtain ⟨m, nextLeft, rfl⟩ := left
    obtain ⟨n, nextRight, rfl⟩ := right
    rw [← same] at nextRight ⊢
    have unit : (0 : Rat) < 2 ^ gridExponent p := by positivity
    have whole := nextLeft.mono nextRight (div_le_div_of_nonneg_right le unit.le)
    refine mul_le_mul_of_nonneg_right ?_ unit.le
    exact_mod_cast whole

/-- Rounding keeps the order. -/
theorem Nearest.mono {p q v w : Rat} (left : Nearest p v) (right : Nearest q w) (le : p ≤ q) :
    v ≤ w := by
  by_cases positive : 0 ≤ p
  · exact left.mono_of_nonneg right positive le
  by_cases negative : q ≤ 0
  · have reversed := right.neg.mono_of_nonneg left.neg (by linarith) (by linarith)
    linarith
  · have below := left.neg.nonneg (by linarith)
    have above := right.nonneg (by linarith)
    linarith

theorem Nearest.unique {q v w : Rat} (left : Nearest q v) (right : Nearest q w) : v = w :=
  le_antisymm (left.mono right le_rfl) (right.mono left le_rfl)

theorem Nearest.error {q v : Rat} {k : Int} (nearest : Nearest q v) (small : -1021 ≤ k)
    (positive : 0 ≤ q) (le : q ≤ 2 ^ k) : |v - q| ≤ 2 ^ (k - 54) := by
  rcases le.lt_or_eq with less | same
  · have grid := gridExponent_le small (by rwa [abs_of_nonneg positive])
    obtain ⟨n, next, rfl⟩ := nearest
    have unit : (0 : Rat) < 2 ^ gridExponent q := by positivity
    have scaled : (n : Rat) * 2 ^ gridExponent q - q =
        -(q / 2 ^ gridExponent q - n) * 2 ^ gridExponent q := by
      field_simp
      ring
    rw [scaled, abs_mul, abs_neg, abs_of_pos unit]
    calc |q / 2 ^ gridExponent q - n| * 2 ^ gridExponent q
        ≤ 1 / 2 * 2 ^ gridExponent q := mul_le_mul_of_nonneg_right next.near unit.le
      _ ≤ 1 / 2 * 2 ^ (k - 53) := by
        refine mul_le_mul_of_nonneg_left ?_ (by norm_num)
        exact zpow_le_zpow_right₀ (by norm_num) grid
      _ = 2 ^ (k - 54) := by
        rw [show k - 53 = (k - 54) + 1 by omega, zpow_add₀ (by norm_num), zpow_one]
        ring
  · have fixed : v = 2 ^ k := by
      have two := nearest_two_pow (k := k) (by omega)
      exact le_antisymm (nearest.mono two le) (two.mono nearest same.ge)
    rw [fixed, same, sub_self, abs_zero]
    positivity

/-- Half a unit above a power of two still goes down to it. -/
theorem nearest_half_above {k : Int} (small : -1021 ≤ k) :
    Nearest ((2 : Rat) ^ k + 2 ^ (k - 53)) (2 ^ k) := by
  have unit : (0 : Rat) < 2 ^ (k - 52) := by positivity
  have half : (2 : Rat) ^ (k - 53) = 1 / 2 * 2 ^ (k - 52) := by
    rw [show k - 52 = (k - 53) + 1 by omega, zpow_add₀ (by norm_num), zpow_one]
    ring
  have whole : (2 : Rat) ^ k = 2 ^ 52 * 2 ^ (k - 52) := by
    rw [← zpow_natCast, ← zpow_add₀ (by norm_num)]
    congr 1
    push_cast
    omega
  have tie : (2 : Rat) ^ k + 2 ^ (k - 53) = (2 ^ 52 + 1 / 2) * 2 ^ (k - 52) := by
    rw [whole, half]
    ring
  have low : (2 : Rat) ^ k ≤ 2 ^ k + 2 ^ (k - 53) := le_add_of_nonneg_right (by positivity)
  have high : (2 : Rat) ^ k + 2 ^ (k - 53) < 2 ^ (k + 1) := by
    rw [tie, zpow_add₀ (by norm_num), whole]
    norm_num
    linarith
  have grid : gridExponent ((2 : Rat) ^ k + 2 ^ (k - 53)) = k - 52 := by
    rw [gridExponent_of_log low high]
    omega
  refine ⟨2 ^ 52, ⟨?_, ?_⟩, ?_⟩
  · rw [grid, tie, mul_div_cancel_right₀ _ unit.ne']
    norm_num
  · intro _
    exact ⟨2 ^ 51, by norm_num⟩
  · rw [grid, whole]
    norm_num

theorem Nearest.le_two_pow {q v : Rat} {k : Int} (nearest : Nearest q v) (small : -1021 ≤ k)
    (le : q ≤ 2 ^ k + 2 ^ (k - 53)) : v ≤ 2 ^ k :=
  nearest.mono (nearest_half_above small) le

/-- Rounding the first part of a sum does not carry the rounded sum over a power of two. -/
theorem Nearest.sum_le {s rest s' v : Rat} {k : Int} (first : Nearest s s')
    (sum : Nearest (s' + rest) v) (small : -1021 ≤ k) (positive : 0 ≤ s) (more : 0 ≤ rest)
    (le : s + rest ≤ 2 ^ k) : v ≤ 2 ^ k := by
  refine sum.le_two_pow small ?_
  have error := abs_le.1 (first.error small positive (by linarith))
  have smaller : (2 : Rat) ^ (k - 54) ≤ 2 ^ (k - 53) :=
    zpow_le_zpow_right₀ (by norm_num) (by omega)
  linarith [error.2]

/-- The weights of a mean, the first one rounded, do not add up to more than one. -/
theorem Nearest.weights_le {weight other total v : Rat} {k : Int}
    (complement : Nearest (1 - weight) other) (sum : Nearest total v)
    (bounded : total ≤ 2 ^ k * other + 2 ^ k * weight) (small : -1021 ≤ k) (positive : 0 ≤ weight)
    (le : weight ≤ 1) : v ≤ 2 ^ k := by
  refine sum.le_two_pow small (bounded.trans ?_)
  have below : 1 - weight ≤ 2 ^ (0 : Int) := by
    norm_num
    linarith
  have error := abs_le.1 (complement.error (by omega) (by linarith) below)
  have unit : (0 : Rat) < 2 ^ k := by positivity
  have scaled : (2 : Rat) ^ (k - 53) = 2 ^ k * 2 ^ (-53 : Int) := by
    rw [← zpow_add₀ (by norm_num)]
    congr 1
  rw [scaled, ← mul_add]
  calc (2 : Rat) ^ k * (other + weight) ≤ 2 ^ k * (1 + 2 ^ (-53 : Int)) := by
        refine mul_le_mul_of_nonneg_left ?_ unit.le
        norm_num at error ⊢
        linarith [error.2]
    _ = 2 ^ k + 2 ^ k * 2 ^ (-53 : Int) := by ring

end GossipGate
