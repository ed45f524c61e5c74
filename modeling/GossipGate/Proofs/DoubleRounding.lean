import Mathlib
import GossipGate.Proofs.Nearest

namespace GossipGate

open Float.Model Float.Model.UnpackedFloat

/-- What a mantissa and the two bits after it tell about the number that they were cut from. -/
def Represents : ExtendedMantissa → Rat → Prop
  | ⟨mantissa, false, false⟩, x => x = mantissa
  | ⟨mantissa, false, true⟩, x => mantissa < x ∧ x < mantissa + 1 / 2
  | ⟨mantissa, true, false⟩, x => x = mantissa + 1 / 2
  | ⟨mantissa, true, true⟩, x => mantissa + 1 / 2 < x ∧ x < mantissa + 1

theorem represents_exact (mantissa : Nat) :
    Represents (.ofMantissaAndAccuracy mantissa .exact) mantissa := by
  show (mantissa : Rat) = mantissa
  rfl

theorem represents_fraction (mantissa : Nat) {part whole : Nat} (proper : part < whole) :
    Represents (.ofMantissaAndAccuracy mantissa (accuracyOfFraction part whole))
      (mantissa + part / whole) := by
  have positive : (0 : Rat) < whole := by exact_mod_cast (by omega : 0 < whole)
  have lt_one : (part / whole : Rat) < 1 := by
    rw [div_lt_one positive]
    exact_mod_cast proper
  unfold accuracyOfFraction
  split
  · rename_i zero
    simp only [ExtendedMantissa.ofMantissaAndAccuracy, Represents, zero]
    norm_num
  rename_i other
  have partPositive : (0 : Rat) < part := by exact_mod_cast (by omega : 0 < part)
  have fraction : (0 : Rat) < part / whole := div_pos partPositive positive
  cases order : compare (2 * part) whole with
  | lt =>
    rw [Nat.compare_eq_lt] at order
    have below : (part / whole : Rat) < 1 / 2 := by
      rw [div_lt_iff₀ positive]
      have cast : (2 : Rat) * part < whole := by exact_mod_cast order
      linarith
    exact ⟨by linarith, by linarith⟩
  | eq =>
    rw [Nat.compare_eq_eq] at order
    have half : (part / whole : Rat) = 1 / 2 := by
      rw [div_eq_iff positive.ne']
      have cast : (2 : Rat) * part = whole := by exact_mod_cast order
      linarith
    show (mantissa + part / whole : Rat) = mantissa + 1 / 2
    rw [half]
  | gt =>
    rw [Nat.compare_eq_gt] at order
    have above : 1 / 2 < (part / whole : Rat) := by
      rw [lt_div_iff₀ positive]
      have cast : (whole : Rat) < 2 * part := by exact_mod_cast order
      linarith
    exact ⟨by linarith, by linarith⟩

/-- The value of the first bit after a mantissa. -/
def halfBit : Bool → Rat
  | false => 0
  | true => 1 / 2

theorem represents_exactly_iff {mantissa : Nat} {round : Bool} {x : Rat} :
    Represents ⟨mantissa, round, false⟩ x ↔ x = mantissa + halfBit round := by
  cases round <;> simp [Represents, halfBit]

theorem represents_above_iff {mantissa : Nat} {round : Bool} {x : Rat} :
    Represents ⟨mantissa, round, true⟩ x ↔
      mantissa + halfBit round < x ∧ x < mantissa + halfBit round + 1 / 2 := by
  cases round with
  | false => simp [Represents, halfBit]
  | true =>
    have whole : (mantissa : Rat) + 1 / 2 + 1 / 2 = mantissa + 1 := by ring
    simp only [Represents, halfBit, whole]

theorem halfBit_bounds (round : Bool) : 0 ≤ halfBit round ∧ halfBit round ≤ 1 / 2 := by
  cases round <;> norm_num [halfBit]

theorem halfBit_mod_two (mantissa : Nat) :
    ((mantissa / 2 : Nat) : Rat) + halfBit (mantissa % 2 != 0) = mantissa / 2 := by
  have parts : 2 * (mantissa / 2) + mantissa % 2 = mantissa := by omega
  have cast : 2 * ((mantissa / 2 : Nat) : Rat) + ((mantissa % 2 : Nat) : Rat) = mantissa := by
    exact_mod_cast parts
  rcases Nat.mod_two_eq_zero_or_one mantissa with even | odd
  · rw [even, Nat.cast_zero] at cast
    have bit : halfBit (mantissa % 2 != 0) = 0 := by rw [even]; rfl
    linarith
  · rw [odd, Nat.cast_one] at cast
    have bit : halfBit (mantissa % 2 != 0) = 1 / 2 := by rw [odd]; rfl
    linarith

/-- One bit less. -/
theorem Represents.shiftRightOne {em : ExtendedMantissa} {x : Rat} (represents : Represents em x) :
    Represents em.shiftRightOne (x / 2) := by
  obtain ⟨mantissa, round, sticky⟩ := em
  show Represents ⟨mantissa / 2, mantissa % 2 != 0, round || sticky⟩ (x / 2)
  have shifted := halfBit_mod_two mantissa
  have bit := halfBit_bounds round
  cases sticky with
  | true =>
    rw [represents_above_iff] at represents
    rw [Bool.or_true, represents_above_iff, shifted]
    exact ⟨by linarith, by linarith⟩
  | false =>
    rw [represents_exactly_iff] at represents
    cases round with
    | false =>
      have nothing : halfBit false = 0 := rfl
      rw [Bool.or_false, represents_exactly_iff, shifted]
      linarith
    | true =>
      have half : halfBit true = 1 / 2 := rfl
      rw [Bool.or_false, represents_above_iff, shifted]
      exact ⟨by linarith, by linarith⟩

theorem Represents.shiftRight {em : ExtendedMantissa} {x : Rat} (represents : Represents em x)
    (count : Nat) : Represents (em >>> count) (x / 2 ^ count) := by
  induction count with
  | zero =>
    rw [pow_zero, div_one]
    exact represents
  | succ count ih =>
    have step := ih.shiftRightOne
    rw [div_div, ← pow_succ] at step
    exact step

theorem Represents.mantissa_le {em : ExtendedMantissa} {x : Rat} (represents : Represents em x) :
    em.mantissa ≤ x ∧ x < em.mantissa + 1 := by
  obtain ⟨mantissa, round, sticky⟩ := em
  have bit := halfBit_bounds round
  show (mantissa : Rat) ≤ x ∧ x < mantissa + 1
  cases sticky with
  | true =>
    rw [represents_above_iff] at represents
    exact ⟨by linarith, by linarith⟩
  | false =>
    rw [represents_exactly_iff] at represents
    exact ⟨by linarith, by linarith⟩

/-- Rounding by the two bits is rounding to the next whole number. -/
theorem Represents.nextWhole {em : ExtendedMantissa} {x : Rat} (represents : Represents em x) :
    NextWhole x em.roundedMantissa := by
  obtain ⟨mantissa, round, sticky⟩ := em
  cases round with
  | false =>
    cases sticky with
    | false =>
      rw [show x = mantissa from represents]
      exact nextWhole_self mantissa
    | true =>
      obtain ⟨low, high⟩ : mantissa < x ∧ x < mantissa + 1 / 2 := represents
      show NextWhole x ((mantissa : Nat) : Int)
      refine nextWhole_of_lt ?_
      rw [Int.cast_natCast, abs_lt]
      exact ⟨by linarith, by linarith⟩
  | true =>
    cases sticky with
    | false =>
      -- A tie goes to the even neighbour.
      have own : x = mantissa + 1 / 2 := represents
      show NextWhole x ((mantissa + mantissa % 2 : Nat) : Int)
      refine ⟨?_, fun _ => ?_⟩
      · rcases Nat.mod_two_eq_zero_or_one mantissa with even | odd
        · rw [even, own, abs_le]
          push_cast
          exact ⟨by linarith, by linarith⟩
        · rw [odd, own, abs_le]
          push_cast
          exact ⟨by linarith, by linarith⟩
      · rw [Int.even_coe_nat, Nat.even_iff]
        omega
    | true =>
      obtain ⟨low, high⟩ : mantissa + 1 / 2 < x ∧ x < mantissa + 1 := represents
      show NextWhole x ((mantissa + 1 : Nat) : Int)
      refine nextWhole_of_lt ?_
      rw [Int.cast_natCast, Nat.cast_add, Nat.cast_one, abs_lt]
      exact ⟨by linarith, by linarith⟩

theorem targetExponent_eq (mantissa : Nat) (e : Int) :
    Format.binary64.targetExponent (totalExponent mantissa e) =
      max ((mantissa.log2 : Int) + 1 + e - 53) (-1074) := rfl

theorem two_pow_log2_le {mantissa : Nat} (positive : 0 < mantissa) :
    (2 : Rat) ^ mantissa.log2 ≤ mantissa ∧ (mantissa : Rat) + 1 ≤ 2 ^ (mantissa.log2 + 1) := by
  constructor
  · exact_mod_cast Nat.log2_self_le positive.ne'
  · exact_mod_cast Nat.lt_log2_self (n := mantissa)

/-- The exponent that the model of doubles aims at for a mantissa is the one of the grid. -/
theorem targetExponent_eq_gridExponent {q : Rat} {mantissa : Nat} {e : Int} (positive : 0 < q)
    (floor : (mantissa : Rat) ≤ q / 2 ^ e ∧ q / 2 ^ e < mantissa + 1) (low : e ≤ gridExponent q) :
    Format.binary64.targetExponent (totalExponent mantissa e) = gridExponent q := by
  have unit : (0 : Rat) < 2 ^ e := by positivity
  rw [targetExponent_eq]
  by_cases none : mantissa = 0
  · subst none
    have below : q < 2 ^ e := by
      have quotient := floor.2
      rw [Nat.cast_zero, zero_add, div_lt_one unit] at quotient
      exact quotient
    have smallest : gridExponent q = -1074 := by
      by_contra other
      have above := gridExponent_le_abs (lt_of_le_of_ne (gridExponent_ge q) (Ne.symm other))
      rw [abs_of_pos positive] at above
      have more : (2 : Rat) ^ e ≤ 2 ^ (gridExponent q + 52) :=
        zpow_le_zpow_right₀ (by norm_num) (by omega)
      linarith
    have log : Nat.log2 0 = 0 := rfl
    rw [smallest, log]
    omega
  · obtain ⟨least, most⟩ := two_pow_log2_le (Nat.pos_of_ne_zero none)
    have above : (2 : Rat) ^ ((mantissa.log2 : Int) + e) ≤ q := by
      rw [zpow_add₀ (by norm_num), zpow_natCast, ← le_div_iff₀ unit]
      exact least.trans floor.1
    have below : q < (2 : Rat) ^ ((mantissa.log2 : Int) + e + 1) := by
      rw [show (mantissa.log2 : Int) + e + 1 = ((mantissa.log2 + 1 : Nat) : Int) + e by
        push_cast; ring, zpow_add₀ (by norm_num), zpow_natCast, ← div_lt_iff₀ unit]
      exact lt_of_lt_of_le floor.2 most
    rw [gridExponent_of_log above below]
    congr 1
    ring

/-- The value of an unpacked double. -/
def unpackedValue : UnpackedFloat → Option Rat
  | .infinity _ | .notANumber => none
  | .zero _ => some 0
  | .finite .positive mantissa exponent _ => some (mantissa * 2 ^ exponent)
  | .finite .negative mantissa exponent _ => some (-(mantissa * 2 ^ exponent))

/-- A number with a sign of its own. -/
def signed : Sign → Rat → Rat
  | .positive, q => q
  | .negative, q => -q

/-- The mantissa fills its 53 bits, or the exponent is the least. -/
def Aligned : UnpackedFloat → Prop
  | .finite _ mantissa exponent _ =>
    mantissa < 2 ^ 53 ∧ -1074 ≤ exponent ∧ (-1074 < exponent → 2 ^ 52 ≤ mantissa)
  | _ => True

theorem mantissa_ofMantissaAndAccuracy (mantissa : Nat) (accuracy : Accuracy) :
    (ExtendedMantissa.ofMantissaAndAccuracy mantissa accuracy).mantissa = mantissa := by
  rcases accuracy with _ | (_ | _ | _) <;> rfl

theorem shiftToTargetExponent_eq {mantissa : Nat} {e g : Int} {accuracy : Accuracy}
    (target : Format.binary64.targetExponent (totalExponent mantissa e) = g) :
    shiftToTargetExponent Format.binary64 mantissa e accuracy =
      (ExtendedMantissa.ofMantissaAndAccuracy mantissa accuracy >>> (g - e).toNat,
        e + (g - e).toNat) := by
  unfold shiftToTargetExponent shiftToExponent
  rw [target]

/-- The first shift reaches the grid. -/
theorem shiftToTargetExponent_grid {q : Rat} {mantissa : Nat} {e : Int} {accuracy : Accuracy}
    (positive : 0 < q)
    (represents : Represents (.ofMantissaAndAccuracy mantissa accuracy) (q / 2 ^ e))
    (low : e ≤ gridExponent q) :
    ∃ em, shiftToTargetExponent Format.binary64 mantissa e accuracy = (em, gridExponent q) ∧
      Represents em (q / 2 ^ gridExponent q) := by
  have floor := represents.mantissa_le
  rw [mantissa_ofMantissaAndAccuracy] at floor
  have target := targetExponent_eq_gridExponent positive floor low
  refine ⟨ExtendedMantissa.ofMantissaAndAccuracy mantissa accuracy >>> (gridExponent q - e).toNat,
    (shiftToTargetExponent_eq target).trans (Prod.ext rfl ?_), ?_⟩
  · show e + ((gridExponent q - e).toNat : Int) = gridExponent q
    omega
  · have shifted := represents.shiftRight (gridExponent q - e).toNat
    have exponent : (2 : Rat) ^ e * 2 ^ (gridExponent q - e).toNat = 2 ^ gridExponent q := by
      rw [← zpow_natCast, ← zpow_add₀ (by norm_num)]
      congr 1
      omega
    rw [div_div, exponent] at shifted
    exact shifted

/-- The second shift has nothing to do where the rounded mantissa still fits. -/
theorem shiftToTargetExponent_fits {mantissa : Nat} {g : Int} (fits : mantissa < 2 ^ 53)
    (small : -1074 ≤ g) : shiftToTargetExponent Format.binary64 mantissa g .exact =
      (⟨mantissa, false, false⟩, g) := by
  have log : mantissa.log2 < 53 := by
    by_cases none : mantissa = 0
    · subst none
      decide
    · exact (Nat.log2_lt none).2 fits
  have nothing : (max ((mantissa.log2 : Int) + 1 + g - 53) (-1074) - g).toNat = 0 := by omega
  rw [shiftToTargetExponent_eq (targetExponent_eq mantissa g), nothing, Nat.cast_zero, add_zero]
  rfl

theorem shiftToTargetExponent_carry {g : Int} (small : -1074 ≤ g) :
    shiftToTargetExponent Format.binary64 (2 ^ 53) g .exact = (⟨2 ^ 52, false, false⟩, g + 1) := by
  have log : (2 ^ 53 : Nat).log2 = 53 := Nat.log2_two_pow
  have one : (max (((2 ^ 53 : Nat).log2 : Int) + 1 + g - 53) (-1074) - g).toNat = 1 := by
    rw [log]
    omega
  rw [shiftToTargetExponent_eq (targetExponent_eq (2 ^ 53) g), one, Nat.cast_one]
  rfl

theorem unpackedValue_finite (sign : Sign) (mantissa : Nat) (e : Int) (positive : 0 < mantissa) :
    unpackedValue (.finite sign mantissa e positive) = some (signed sign (mantissa * 2 ^ e)) := by
  cases sign <;> rfl

theorem unpackedValue_zero (sign : Sign) : unpackedValue (.zero sign) = some (signed sign 0) := by
  cases sign
  · exact congrArg some neg_zero.symm
  · rfl

/-- Rounding in the model of doubles. -/
theorem roundWithAccuracy_nearest {q : Rat} {mantissa : Nat} {e : Int} {accuracy : Accuracy}
    (positive : 0 < q)
    (represents : Represents (.ofMantissaAndAccuracy mantissa accuracy) (q / 2 ^ e))
    (low : e ≤ gridExponent q) (sign : Sign) : ∃ v, Nearest q v ∧
      unpackedValue (roundWithAccuracy Format.binary64 sign mantissa e accuracy) =
        some (signed sign v) ∧
      Aligned (roundWithAccuracy Format.binary64 sign mantissa e accuracy) := by
  obtain ⟨em, first, own⟩ := shiftToTargetExponent_grid positive represents low
  have next := own.nextWhole
  have small := gridExponent_ge q
  have bounded : em.roundedMantissa ≤ 2 ^ 53 := by exact_mod_cast next.le_mantissa
  have filled : -1074 < gridExponent q → 2 ^ 52 ≤ em.roundedMantissa := fun normal => by
    exact_mod_cast next.mantissa_le positive.le normal
  refine ⟨em.roundedMantissa * 2 ^ gridExponent q,
    ⟨em.roundedMantissa, next, by push_cast; rfl⟩, ?_⟩
  unfold roundWithAccuracy
  simp only [first]
  -- Only a carry to 2^53 leaves work for the second shift.
  rcases bounded.lt_or_eq with fits | carry
  · simp only [shiftToTargetExponent_fits fits small]
    split
    · rename_i zero
      rw [zero, Nat.cast_zero, zero_mul, unpackedValue_zero]
      exact ⟨rfl, trivial⟩
    · rw [unpackedValue_finite]
      exact ⟨rfl, fits, small, filled⟩
  · simp only [carry, shiftToTargetExponent_carry small]
    split
    · rename_i zero
      norm_num at zero
    · rw [unpackedValue_finite]
      refine ⟨?_, by norm_num, by omega, fun _ => le_rfl⟩
      rw [zpow_add₀ (by norm_num), zpow_one]
      congr 2
      push_cast
      ring

theorem mantissa_bounds {mantissa : Nat} (positive : 0 < mantissa) (e : Int) :
    (2 : Rat) ^ ((mantissa.log2 : Int) + e) ≤ mantissa * 2 ^ e ∧
      mantissa * 2 ^ e < (2 : Rat) ^ ((mantissa.log2 : Int) + e + 1) := by
  have unit : (0 : Rat) < 2 ^ e := by positivity
  obtain ⟨least, most⟩ := two_pow_log2_le positive
  constructor
  · rw [zpow_add₀ (by norm_num), zpow_natCast]
    exact mul_le_mul_of_nonneg_right least unit.le
  · rw [show (mantissa.log2 : Int) + e + 1 = ((mantissa.log2 + 1 : Nat) : Int) + e by
      push_cast; ring, zpow_add₀ (by norm_num), zpow_natCast]
    exact mul_lt_mul_of_pos_right (by linarith) unit

theorem gridExponent_mantissa {mantissa : Nat} (positive : 0 < mantissa) (e : Int) :
    gridExponent (mantissa * 2 ^ e) =
      Format.binary64.targetExponent (totalExponent mantissa e) := by
  obtain ⟨above, below⟩ := mantissa_bounds positive e
  rw [gridExponent_of_log above below, targetExponent_eq]
  congr 1
  ring

/-- An unpacked double that is aligned and has a value. -/
def Denotes (f : UnpackedFloat) (q : Rat) : Prop := Aligned f ∧ unpackedValue f = some q

/-- An unpacked double that is nearest to a number. -/
def RoundsTo (q : Rat) (f : UnpackedFloat) : Prop := ∃ v, Nearest q v ∧ Denotes f v

theorem Nearest.signed {q v : Rat} (nearest : Nearest q v) (sign : Sign) :
    Nearest (signed sign q) (signed sign v) := by
  cases sign
  · exact nearest.neg
  · exact nearest

theorem roundWithAccuracy_roundsTo {q : Rat} {mantissa : Nat} {e : Int} {accuracy : Accuracy}
    (positive : 0 < q)
    (represents : Represents (.ofMantissaAndAccuracy mantissa accuracy) (q / 2 ^ e))
    (low : e ≤ gridExponent q) (sign : Sign) : RoundsTo (signed sign q)
      (roundWithAccuracy Format.binary64 sign mantissa e accuracy) := by
  obtain ⟨v, nearest, value, aligned⟩ := roundWithAccuracy_nearest positive represents low sign
  exact ⟨signed sign v, nearest.signed sign, aligned, value⟩

theorem roundWithAccuracy_exact {mantissa : Nat} {e : Int} (positive : 0 < mantissa)
    (low : e ≤ gridExponent (mantissa * 2 ^ e)) (sign : Sign) :
    RoundsTo (signed sign (mantissa * 2 ^ e))
      (roundWithAccuracy Format.binary64 sign mantissa e .exact) := by
  have cast : (0 : Rat) < mantissa := by exact_mod_cast positive
  have unit : (0 : Rat) < 2 ^ e := by positivity
  refine roundWithAccuracy_roundsTo (by positivity) ?_ low sign
  rw [mul_div_cancel_right₀ _ unit.ne']
  exact represents_exact mantissa

theorem round_roundsTo {mantissa : Nat} (positive : 0 < mantissa) (e : Int) (sign : Sign) :
    RoundsTo (signed sign (mantissa * 2 ^ e))
      (UnpackedFloat.round Format.binary64 sign mantissa e) := by
  unfold UnpackedFloat.round decreaseExponent
  have grid := gridExponent_mantissa positive e
  generalize Format.binary64.targetExponent (totalExponent mantissa e) = target at grid
  dsimp only
  have shifted : ((mantissa <<< (e - target).toNat : Nat) : Rat) * 2 ^ (e - (e - target).toNat) =
      mantissa * 2 ^ e := by
    rw [Nat.shiftLeft_eq]
    push_cast
    rw [mul_assoc, ← zpow_natCast, ← zpow_add₀ (by norm_num)]
    congr 2
    ring
  rw [← shifted]
  refine roundWithAccuracy_exact ?_ ?_ sign
  · rw [Nat.shiftLeft_eq]
    positivity
  · rw [shifted, grid]
    omega

theorem denotes_zero (sign : Sign) : Denotes (.zero sign) 0 := ⟨trivial, rfl⟩

theorem normalize_roundsTo (mantissa e : Int) (zeroSign : Sign) :
    RoundsTo (mantissa * 2 ^ e) (UnpackedFloat.normalize Format.binary64 mantissa e zeroSign) := by
  unfold UnpackedFloat.normalize
  rcases lt_trichotomy mantissa 0 with negative | zero | positive
  · rw [compare_lt_iff_lt.2 negative]
    have rounds := round_roundsTo (show 0 < (-mantissa).toNat by omega) e .negative
    have magnitude : (((-mantissa).toNat : Nat) : Rat) = -mantissa := by
      exact_mod_cast Int.toNat_of_nonneg (by omega : 0 ≤ -mantissa)
    rw [magnitude] at rounds
    simpa [signed] using rounds
  · rw [zero, compare_eq_iff_eq.2 rfl, Int.cast_zero, zero_mul]
    exact ⟨0, nearest_zero, denotes_zero zeroSign⟩
  · rw [compare_gt_iff_gt.2 positive]
    have rounds := round_roundsTo (show 0 < mantissa.toNat by omega) e .positive
    have magnitude : ((mantissa.toNat : Nat) : Rat) = mantissa := by
      exact_mod_cast Int.toNat_of_nonneg positive.le
    rw [magnitude] at rounds
    exact rounds

/-! ### Operations -/

/-- A double is zero or a mantissa with an exponent. -/
theorem Denotes.cases {f : UnpackedFloat} {q : Rat} (denotes : Denotes f q) :
    (∃ sign, f = .zero sign ∧ q = 0) ∨
      ∃ sign mantissa e, ∃ positive : 0 < mantissa, f = .finite sign mantissa e positive ∧
        q = signed sign (mantissa * 2 ^ e) ∧ mantissa < 2 ^ 53 ∧ -1074 ≤ e ∧
        (-1074 < e → 2 ^ 52 ≤ mantissa) := by
  obtain ⟨aligned, value⟩ := denotes
  cases f with
  | infinity | notANumber => cases value
  | zero sign => exact Or.inl ⟨sign, rfl, (Option.some.inj value).symm⟩
  | finite sign mantissa e positive =>
    rw [unpackedValue_finite] at value
    exact Or.inr ⟨sign, mantissa, e, positive, rfl, (Option.some.inj value).symm, aligned⟩

theorem Denotes.nearest {f : UnpackedFloat} {q : Rat} (denotes : Denotes f q) : Nearest q q := by
  obtain ⟨sign, rfl, rfl⟩ | ⟨sign, mantissa, e, _, rfl, rfl, fits, small, _⟩ := denotes.cases
  · exact nearest_zero
  · refine Nearest.signed ?_ sign
    have whole := nearest_mantissa (m := mantissa) (e := e) (by
      rw [Nat.abs_cast]
      exact_mod_cast fits) small
    exact_mod_cast whole

theorem Denotes.roundsTo {f : UnpackedFloat} {q : Rat} (denotes : Denotes f q) : RoundsTo q f :=
  ⟨q, denotes.nearest, denotes⟩

theorem Denotes.neg {f : UnpackedFloat} {q : Rat} (denotes : Denotes f q) :
    Denotes f.neg (-q) := by
  obtain ⟨sign, rfl, rfl⟩ | ⟨sign, mantissa, e, _, rfl, rfl, aligned⟩ := denotes.cases
  · rw [neg_zero]
    exact denotes_zero (-sign)
  · refine ⟨aligned, ?_⟩
    cases sign
    · exact congrArg some (neg_neg _).symm
    · rfl

theorem decreaseExponent_value (mantissa : Nat) {e least : Int} (le : least ≤ e) :
    (((decreaseExponent mantissa e least).1 : Nat) : Rat) * 2 ^ least = mantissa * 2 ^ e := by
  unfold decreaseExponent
  dsimp only
  rw [Nat.shiftLeft_eq]
  push_cast
  rw [mul_assoc, ← zpow_natCast, ← zpow_add₀ (by norm_num)]
  congr 2
  omega

/-- A mantissa with its sign after the exponent was lowered. -/
theorem apply_decreaseExponent (sign : Sign) (mantissa : Nat) {e least : Int} (le : least ≤ e) :
    ((sign.apply (decreaseExponent mantissa e least).1 : Int) : Rat) * 2 ^ least =
      signed sign (mantissa * 2 ^ e) := by
  rw [← decreaseExponent_value mantissa le]
  cases sign <;> simp [Sign.apply, signed]

theorem add_roundsTo {f g : UnpackedFloat} {p q : Rat} (left : Denotes f p) (right : Denotes g q) :
    RoundsTo (p + q) (UnpackedFloat.add Format.binary64 f g) := by
  obtain ⟨sign, rfl, rfl⟩ | ⟨sign, mantissa, e, positive, rfl, rfl, _⟩ := left.cases
  · rw [zero_add]
    obtain ⟨other, rfl, rfl⟩ | ⟨_, _, _, _, rfl, _⟩ := right.cases
    · simp only [UnpackedFloat.add]
      split
      · exact (denotes_zero _).roundsTo
      · exact (denotes_zero _).roundsTo
    · exact right.roundsTo
  · obtain ⟨other, rfl, rfl⟩ | ⟨other, mantissa', e', positive', rfl, rfl, _⟩ := right.cases
    · rw [add_zero]
      exact left.roundsTo
    · have sum := normalize_roundsTo
        (sign.apply (decreaseExponent mantissa e (min e e')).1 +
          other.apply (decreaseExponent mantissa' e' (min e e')).1) (min e e') .positive
      rw [Int.cast_add, add_mul, apply_decreaseExponent sign mantissa (min_le_left e e'),
        apply_decreaseExponent other mantissa' (min_le_right e e')] at sum
      exact sum

theorem sub_roundsTo {f g : UnpackedFloat} {p q : Rat} (left : Denotes f p) (right : Denotes g q) :
    RoundsTo (p - q) (UnpackedFloat.sub Format.binary64 f g) := by
  obtain ⟨sign, rfl, rfl⟩ | ⟨sign, mantissa, e, positive, rfl, rfl, _⟩ := left.cases
  · rw [zero_sub]
    obtain ⟨other, rfl, rfl⟩ | ⟨_, _, _, _, rfl, _⟩ := right.cases
    · rw [neg_zero]
      simp only [UnpackedFloat.sub]
      split
      · exact (denotes_zero _).roundsTo
      · exact (denotes_zero _).roundsTo
    · exact right.neg.roundsTo
  · obtain ⟨other, rfl, rfl⟩ | ⟨other, mantissa', e', positive', rfl, rfl, _⟩ := right.cases
    · rw [sub_zero]
      exact left.roundsTo
    · have difference := normalize_roundsTo
        (sign.apply (decreaseExponent mantissa e (min e e')).1 -
          other.apply (decreaseExponent mantissa' e' (min e e')).1) (min e e') .positive
      rw [Int.cast_sub, sub_mul, apply_decreaseExponent sign mantissa (min_le_left e e'),
        apply_decreaseExponent other mantissa' (min_le_right e e')] at difference
      exact difference

theorem signed_mul_signed (sign other : Sign) (p q : Rat) :
    signed sign p * signed other q = signed (sign * other) (p * q) := by
  cases sign <;> cases other
  · exact neg_mul_neg p q
  · exact neg_mul p q
  · exact mul_neg p q
  · rfl

theorem signed_div_signed (sign other : Sign) (p q : Rat) :
    signed sign p / signed other q = signed (sign / other) (p / q) := by
  cases sign <;> cases other
  · exact neg_div_neg_eq p q
  · exact neg_div q p
  · exact div_neg p
  · rfl

theorem mul_roundsTo {f g : UnpackedFloat} {p q : Rat} (left : Denotes f p) (right : Denotes g q) :
    RoundsTo (p * q) (UnpackedFloat.mul Format.binary64 f g) := by
  obtain ⟨sign, rfl, rfl⟩ | ⟨sign, mantissa, e, positive, rfl, rfl, _, small, filled⟩ := left.cases
  · rw [zero_mul]
    obtain ⟨other, rfl, rfl⟩ | ⟨_, _, _, _, rfl, _⟩ := right.cases
    · exact (denotes_zero _).roundsTo
    · exact (denotes_zero _).roundsTo
  · obtain ⟨other, rfl, rfl⟩ | ⟨other, mantissa', e', positive', rfl, rfl, _, small', filled'⟩ :=
      right.cases
    · rw [mul_zero]
      exact (denotes_zero _).roundsTo
    · have product : ((mantissa : Rat) * 2 ^ e) * (mantissa' * 2 ^ e') =
          ((mantissa * mantissa' : Nat) : Rat) * 2 ^ (e + e') := by
        rw [zpow_add₀ (by norm_num)]
        push_cast
        ring
      have both := Nat.mul_pos positive positive'
      rw [signed_mul_signed, product]
      refine roundWithAccuracy_exact both ?_ (sign * other)
      have grid := gridExponent_ge_of_le (mantissa_bounds both (e + e')).1
      by_cases subnormal : e = -1074 ∧ e' = -1074
      · omega
      · have long : 2 ^ 52 ≤ mantissa * mantissa' := by
          by_cases normal : -1074 < e
          · exact (filled normal).trans (Nat.le_mul_of_pos_right _ positive')
          · exact (filled' (by omega)).trans (Nat.le_mul_of_pos_left _ positive)
        have log : 52 ≤ (mantissa * mantissa').log2 := (Nat.le_log2 both.ne').2 long
        omega

/-- The long division has enough bits, and what is left of it tells the rest. -/
theorem divCore_represents {mantissa mantissa' : Nat} (positive : 0 < mantissa)
    (positive' : 0 < mantissa') (e e' : Int) {quotient : Nat} {exponent : Int} {accuracy : Accuracy}
    (divides : divCore Format.binary64 mantissa e mantissa' e' = (quotient, exponent, accuracy)) :
    Represents (.ofMantissaAndAccuracy quotient accuracy)
      (mantissa * 2 ^ e / (mantissa' * 2 ^ e') / 2 ^ exponent) ∧
    exponent ≤ gridExponent (mantissa * 2 ^ e / (mantissa' * 2 ^ e')) := by
  have target : ∀ t, Format.binary64.targetExponent t = max (t - 53) (-1074) := fun _ => rfl
  unfold divCore totalExponent at divides
  simp only [target, Prod.mk.injEq] at divides
  obtain ⟨rfl, exponent_eq, rfl⟩ := divides
  rw [exponent_eq]
  have whole : (0 : Rat) < mantissa' := by exact_mod_cast positive'
  have unit : (0 : Rat) < 2 ^ e' := by positivity
  constructor
  · have represents := represents_fraction
      (mantissa <<< (e - e' - exponent).toNat / mantissa')
      (Nat.mod_lt (mantissa <<< (e - e' - exponent).toNat) positive')
    have value : ((mantissa <<< (e - e' - exponent).toNat / mantissa' : Nat) : Rat) +
        ((mantissa <<< (e - e' - exponent).toNat % mantissa' : Nat) : Rat) / mantissa' =
        mantissa * 2 ^ e / (mantissa' * 2 ^ e') / 2 ^ exponent := by
      have division := Nat.div_add_mod (mantissa <<< (e - e' - exponent).toNat) mantissa'
      rw [Nat.shiftLeft_eq] at division ⊢
      have cast : (mantissa' : Rat) *
          ((mantissa * 2 ^ (e - e' - exponent).toNat / mantissa' : Nat) : Rat) +
          ((mantissa * 2 ^ (e - e' - exponent).toNat % mantissa' : Nat) : Rat) =
          mantissa * 2 ^ (e - e' - exponent).toNat := by exact_mod_cast division
      have power : (2 : Rat) ^ (e - e' - exponent).toNat * 2 ^ e' * 2 ^ exponent = 2 ^ e := by
        rw [← zpow_natCast, ← zpow_add₀ (by norm_num), ← zpow_add₀ (by norm_num)]
        congr 1
        omega
      rw [div_div, eq_div_iff (by positivity), ← power]
      field_simp
      linarith
    rw [value] at represents
    exact represents
  · have above : (2 : Rat) ^ ((mantissa.log2 : Int) + e - (mantissa'.log2 + e' + 1)) ≤
        mantissa * 2 ^ e / (mantissa' * 2 ^ e') := by
      rw [le_div_iff₀ (by positivity), zpow_sub₀ (by norm_num)]
      rw [div_mul_eq_mul_div, div_le_iff₀ (by positivity)]
      have least := (mantissa_bounds positive e).1
      have most := (mantissa_bounds positive' e').2
      exact mul_le_mul least most.le (by positivity) (by positivity)
    have grid := gridExponent_ge_of_le above
    omega

theorem div_roundsTo {f g : UnpackedFloat} {p q : Rat} (left : Denotes f p) (right : Denotes g q)
    (other : q ≠ 0) : RoundsTo (p / q) (UnpackedFloat.div Format.binary64 f g) := by
  obtain ⟨_, _, rfl⟩ | ⟨sign', mantissa', e', positive', rfl, rfl, _⟩ := right.cases
  · exact absurd rfl other
  obtain ⟨sign, rfl, rfl⟩ | ⟨sign, mantissa, e, positive, rfl, rfl, _⟩ := left.cases
  · rw [zero_div]
    exact (denotes_zero _).roundsTo
  · have cast : (0 : Rat) < mantissa := by exact_mod_cast positive
    have cast' : (0 : Rat) < mantissa' := by exact_mod_cast positive'
    cases divides : divCore Format.binary64 mantissa e mantissa' e' with
    | mk quotient rest =>
      obtain ⟨represents, low⟩ := divCore_represents positive positive' e e' divides
      rw [signed_div_signed]
      simp only [UnpackedFloat.div, divides]
      exact roundWithAccuracy_roundsTo (by positivity) represents low (sign / sign')

end GossipGate
