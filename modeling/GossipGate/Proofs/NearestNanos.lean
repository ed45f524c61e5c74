import GossipGate.Duration
import GossipGate.Proofs.Nearest

namespace GossipGate

/-! ### Rounding a quotient -/

theorem div_eq_add_mod_div (num : Nat) {den : Nat} (positive : 0 < den) :
    (num / den : Rat) = (num / den : Nat) + (num % den : Nat) / den := by
  have cast : (den : Rat) ≠ 0 := by exact_mod_cast positive.ne'
  have parts : (num : Rat) = den * (num / den : Nat) + (num % den : Nat) := by
    exact_mod_cast (Nat.div_add_mod num den).symm
  rw [div_eq_iff cast, add_mul, div_mul_cancel₀ _ cast, mul_comm, ← parts]

/-- Halfway between two whole numbers the even one is next. -/
theorem nextWhole_half {n m : Int} (even : Even m) (neighbour : m = n ∨ m = n + 1) :
    NextWhole (n + 1 / 2) m := by
  refine ⟨?_, fun _ => even⟩
  rcases neighbour with rfl | rfl
  · norm_num
  · push_cast
    norm_num

theorem nextWhole_roundHalfEven (num : Nat) {den : Nat} (positive : 0 < den) :
    NextWhole (num / den) (roundHalfEven num den : Nat) := by
  have cast : (0 : Rat) < den := by exact_mod_cast positive
  have least : (0 : Rat) ≤ (num % den : Nat) / den := by positivity
  have most : ((num % den : Nat) : Rat) / den < 1 := by
    rw [div_lt_one cast]
    exact_mod_cast Nat.mod_lt num positive
  rw [div_eq_add_mod_div num positive]
  unfold roundHalfEven
  dsimp only
  split
  · rename_i below
    have half : ((num % den : Nat) : Rat) / den < 1 / 2 := by
      rw [div_lt_iff₀ cast]
      have double : (2 : Rat) * (num % den : Nat) < den := by exact_mod_cast below
      linarith
    refine nextWhole_of_lt ?_
    rw [Int.cast_natCast, add_sub_cancel_left, abs_of_nonneg least]
    exact half
  rename_i notBelow
  split
  · rename_i above
    have half : 1 / 2 < ((num % den : Nat) : Rat) / den := by
      rw [lt_div_iff₀ cast]
      have double : (den : Rat) < 2 * (num % den : Nat) := by exact_mod_cast above
      linarith
    refine nextWhole_of_lt ?_
    rw [Int.cast_natCast, Nat.cast_add_one, abs_lt]
    constructor <;> linarith
  · rename_i notAbove
    have half : ((num % den : Nat) : Rat) / den = 1 / 2 := by
      have double : 2 * (num % den) = den := by omega
      have doubleCast : (2 : Rat) * (num % den : Nat) = den := by exact_mod_cast double
      rw [div_eq_iff cast.ne']
      linarith
    rw [half]
    split
    · exact nextWhole_half ((Int.even_coe_nat _).2 (Nat.even_iff.2 ‹_›)) (Or.inl rfl)
    · refine nextWhole_half ((Int.even_coe_nat _).2 (Nat.even_iff.2 (by omega))) (Or.inr ?_)
      push_cast
      rfl

/-! ### Nanoseconds next to a number of seconds -/

namespace Duration

/-- The number of nanoseconds nearest to a number of seconds, of two the even one. -/
def nearestNanos (q : Rat) : Nat := roundHalfEven (q.num.toNat * 1000000000) q.den

section Nearest

variable {p q : Rat} {n : Nat}

theorem nextWhole_nearestNanos (positive : 0 ≤ q) :
    NextWhole (q * 1000000000) (nearestNanos q : Nat) := by
  have next := nextWhole_roundHalfEven (q.num.toNat * 1000000000) q.den_pos
  have same : ((q.num.toNat * 1000000000 : Nat) : Rat) / q.den = q * 1000000000 := by
    have whole : ((q.num.toNat : Nat) : Rat) = q.num := by
      exact_mod_cast Int.toNat_of_nonneg (Rat.num_nonneg.2 positive)
    have quotient : (q.num : Rat) / q.den = q := q.num_div_den
    rw [Nat.cast_mul, whole, mul_div_right_comm, quotient]
    norm_num
  rwa [same] at next

theorem nearestNanos_mono (positive : 0 ≤ p) (le : p ≤ q) : nearestNanos p ≤ nearestNanos q := by
  have scaled : p * 1000000000 ≤ q * 1000000000 := mul_le_mul_of_nonneg_right le (by norm_num)
  have order := (nextWhole_nearestNanos positive).mono
    (nextWhole_nearestNanos (positive.trans le)) scaled
  exact_mod_cast order

theorem nearestNanos_le (positive : 0 ≤ q) (le : q * 1000000000 ≤ n) : nearestNanos q ≤ n := by
  have order := (nextWhole_nearestNanos positive).mono (nextWhole_self n) (by exact_mod_cast le)
  exact_mod_cast order

theorem le_nearestNanos (positive : 0 ≤ q) (le : n ≤ q * 1000000000) : n ≤ nearestNanos q := by
  have order := (nextWhole_self n).mono (nextWhole_nearestNanos positive) (by exact_mod_cast le)
  exact_mod_cast order

/-- Less than half a nanosecond beside a whole number of them. -/
theorem nearestNanos_of_near (positive : 0 ≤ q) (near : |q * 1000000000 - n| < 1 / 2) :
    nearestNanos q = n := by
  have next : NextWhole (q * 1000000000) (n : Int) := nextWhole_of_lt (by exact_mod_cast near)
  have own := nextWhole_nearestNanos positive
  have order := le_antisymm (own.mono next le_rfl) (next.mono own le_rfl)
  exact_mod_cast order

end Nearest

section Measured

variable {α : Type} [Scalar α] {x : α} {q : Rat}

theorem fromSeconds_ok (value : Scalar.value? x = some q) (positive : 0 ≤ q)
    (short : nearestNanos q < limit) :
    ∃ d, fromSeconds x = .ok d ∧ d.nanos = nearestNanos q := by
  have spans : ofNanos? (nearestNanos q) = some ⟨_, short⟩ := dif_pos short
  refine ⟨⟨nearestNanos q, short⟩, ?_, rfl⟩
  unfold fromSeconds
  rw [value]
  dsimp only
  rw [if_neg (not_lt.2 positive), show roundHalfEven _ _ = nearestNanos q from rfl, spans]

theorem fromSeconds_error (value : Scalar.value? x = some q) (positive : 0 ≤ q)
    (long : limit ≤ nearestNanos q) : fromSeconds x = .error .durationRange := by
  have spans : ofNanos? (nearestNanos q) = none := dif_neg (not_lt.2 long)
  unfold fromSeconds
  rw [value]
  dsimp only
  rw [if_neg (not_lt.2 positive), show roundHalfEven _ _ = nearestNanos q from rfl, spans]

end Measured

end Duration

end GossipGate
