import GossipGate.Proofs.DoubleValue

namespace GossipGate

open Float.Model Float.Model.UnpackedFloat

/-- A double that is nearest to a number. -/
def RoundsToFloat (q : Rat) (x : Float) : Prop := ∃ v, Scalar.value? x = some v ∧ Nearest q v

theorem nearest_le_two_pow {q v : Rat} {k : Int} (nearest : Nearest q v) (small : -1021 ≤ k)
    (bounded : |q| ≤ 2 ^ k) : |v| ≤ 2 ^ k := by
  obtain ⟨low, high⟩ := abs_le.1 bounded
  have two := nearest_two_pow (k := k) (by omega)
  exact abs_le.2 ⟨two.neg.mono nearest low, nearest.mono two high⟩

theorem RoundsTo.pack {q : Rat} {f : UnpackedFloat} (rounds : RoundsTo q f)
    (bounded : |q| ≤ 2 ^ (1000 : Int)) : RoundsToFloat q (.ofModel (Float.Model.pack f)) := by
  obtain ⟨v, nearest, denotes⟩ := rounds
  refine ⟨v, ?_, nearest⟩
  have packed := denotes.unpack_pack (nearest_le_two_pow nearest (by norm_num) bounded)
  exact (binary64Value?_eq _).trans packed.2

section Arithmetic

variable {x y : Float} {p q : Rat}

theorem roundsToFloat_add (left : Scalar.value? x = some p) (right : Scalar.value? y = some q)
    (bounded : |p + q| ≤ 2 ^ (1000 : Int)) : RoundsToFloat (p + q) (x + y) :=
  (add_roundsTo (denotes_unpack left) (denotes_unpack right)).pack bounded

theorem roundsToFloat_sub (left : Scalar.value? x = some p) (right : Scalar.value? y = some q)
    (bounded : |p - q| ≤ 2 ^ (1000 : Int)) : RoundsToFloat (p - q) (x - y) :=
  (sub_roundsTo (denotes_unpack left) (denotes_unpack right)).pack bounded

theorem roundsToFloat_mul (left : Scalar.value? x = some p) (right : Scalar.value? y = some q)
    (bounded : |p * q| ≤ 2 ^ (1000 : Int)) : RoundsToFloat (p * q) (x * y) :=
  (mul_roundsTo (denotes_unpack left) (denotes_unpack right)).pack bounded

theorem roundsToFloat_div (left : Scalar.value? x = some p) (right : Scalar.value? y = some q)
    (other : q ≠ 0) (bounded : |p / q| ≤ 2 ^ (1000 : Int)) : RoundsToFloat (p / q) (x / y) :=
  (div_roundsTo (denotes_unpack left) (denotes_unpack right) other).pack bounded

end Arithmetic

/-! ### Comparison -/

/-- Exponents decide first, since a mantissa of full length is longer than any other. -/
theorem compare_mantissa {mantissa mantissa' : Nat} {e e' : Int} (fits : mantissa < 2 ^ 53)
    (fits' : mantissa' < 2 ^ 53) (small : -1074 ≤ e) (small' : -1074 ≤ e')
    (filled : -1074 < e → 2 ^ 52 ≤ mantissa) (filled' : -1074 < e' → 2 ^ 52 ≤ mantissa') :
    (compare e e').then (compare mantissa mantissa') =
      compare ((mantissa : Rat) * 2 ^ e) (mantissa' * 2 ^ e') := by
  have shorter : ∀ {m m' : Nat} {k k' : Int}, m < 2 ^ 53 → 2 ^ 52 ≤ m' → k < k' →
      (m : Rat) * 2 ^ k < m' * 2 ^ k' := by
    intro m m' k k' short long less
    have unit : (0 : Rat) < 2 ^ k := by positivity
    have step : (2 : Rat) ^ (k + 1) ≤ 2 ^ k' := zpow_le_zpow_right₀ (by norm_num) (by omega)
    have cast : (m : Rat) < 2 ^ 53 := by exact_mod_cast short
    have cast' : (2 : Rat) ^ 52 ≤ m' := by exact_mod_cast long
    rw [zpow_add₀ (by norm_num), zpow_one] at step
    calc (m : Rat) * 2 ^ k < 2 ^ 53 * 2 ^ k := mul_lt_mul_of_pos_right cast unit
      _ = 2 ^ 52 * (2 ^ k * 2) := by ring
      _ ≤ m' * 2 ^ k' := mul_le_mul cast' step (by positivity) (by positivity)
  rcases lt_trichotomy e e' with less | same | more
  · have below := shorter fits (filled' (by omega)) less
    rw [compare_lt_iff_lt.2 less, compare_lt_iff_lt.2 below]
    rfl
  · subst same
    have unit : (0 : Rat) < 2 ^ e := by positivity
    rw [compare_eq_iff_eq.2 rfl]
    rcases lt_trichotomy mantissa mantissa' with less | same | more
    · have cast : (mantissa : Rat) < mantissa' := by exact_mod_cast less
      rw [compare_lt_iff_lt.2 (mul_lt_mul_of_pos_right cast unit)]
      exact compare_lt_iff_lt.2 less
    · rw [same, compare_eq_iff_eq.2 rfl, compare_eq_iff_eq.2 rfl]
      rfl
    · have cast : (mantissa' : Rat) < mantissa := by exact_mod_cast more
      rw [compare_gt_iff_gt.2 (mul_lt_mul_of_pos_right cast unit)]
      exact compare_gt_iff_gt.2 more
  · have above := shorter fits' (filled (by omega)) more
    rw [compare_gt_iff_gt.2 more, compare_gt_iff_gt.2 above]
    rfl

theorem compare_neg_neg (p q : Rat) : (compare p q).swap = compare (-p) (-q) := by
  rcases lt_trichotomy p q with less | same | more
  · rw [compare_lt_iff_lt.2 less, compare_gt_iff_gt.2 (neg_lt_neg less)]
    rfl
  · rw [same, compare_eq_iff_eq.2 rfl, compare_eq_iff_eq.2 rfl]
    rfl
  · rw [compare_gt_iff_gt.2 more, compare_lt_iff_lt.2 (neg_lt_neg more)]
    rfl

/-- Doubles with a value compare by it. -/
theorem Denotes.compare {f g : UnpackedFloat} {p q : Rat} (left : Denotes f p)
    (right : Denotes g q) : f.compare g = some (compare p q) := by
  obtain ⟨sign, rfl, rfl⟩ | ⟨sign, mantissa, e, positive, rfl, rfl, fits, small, filled⟩ :=
    left.cases
  · obtain ⟨sign', rfl, rfl⟩ | ⟨sign', mantissa', e', positive', rfl, rfl, _⟩ := right.cases
    · rfl
    · have cast : (0 : Rat) < mantissa' * 2 ^ e' := by positivity
      cases sign'
      · rw [compare_gt_iff_gt.2 (show signed .negative _ < 0 from neg_neg_of_pos cast)]
        rfl
      · rw [compare_lt_iff_lt.2 (show 0 < signed .positive _ from cast)]
        rfl
  · have cast : (0 : Rat) < mantissa * 2 ^ e := by positivity
    obtain ⟨sign', rfl, rfl⟩ |
      ⟨sign', mantissa', e', positive', rfl, rfl, fits', small', filled'⟩ := right.cases
    · cases sign
      · rw [compare_lt_iff_lt.2 (show signed .negative _ < 0 from neg_neg_of_pos cast)]
        rfl
      · rw [compare_gt_iff_gt.2 (show 0 < signed .positive _ from cast)]
        rfl
    · have cast' : (0 : Rat) < mantissa' * 2 ^ e' := by positivity
      have sizes := compare_mantissa fits fits' small small' filled filled'
      cases sign <;> cases sign'
      · show some ((Ord.compare e e').then (Ord.compare mantissa mantissa')).swap = _
        rw [sizes, compare_neg_neg]
        rfl
      · rw [compare_lt_iff_lt.2 (show signed .negative _ < signed .positive _ from
          (neg_neg_of_pos cast).trans cast')]
        rfl
      · rw [compare_gt_iff_gt.2 (show signed .negative _ < signed .positive _ from
          (neg_neg_of_pos cast').trans cast)]
        rfl
      · exact congrArg some sizes

/-! ### Counts and decimal fractions -/

theorem roundsTo_ofUInt64 (n : UInt64) : RoundsTo n.toNat (ofUInt64 Format.binary64 n) := by
  have rounds := normalize_roundsTo n.toNat 0 .positive
  rw [zpow_zero, mul_one, Int.cast_natCast] at rounds
  exact rounds

theorem roundsTo_ofScientific (n : Nat) :
    RoundsTo n (UnpackedFloat.ofScientific Format.binary64 n 0) := by
  unfold UnpackedFloat.ofScientific
  by_cases zero : n = 0
  · rw [dif_pos zero, zero, Nat.cast_zero]
    exact (denotes_zero _).roundsTo
  have positive : 0 < n := by omega
  have most : ¬(0 : Int) > 2 ^ Format.binary64.exponentBits := by decide
  have least : ¬(0 : Int) < -(2 ^ Format.binary64.exponentBits + n.log2) := by
    have bits : (0 : Int) < 2 ^ Format.binary64.exponentBits := by decide
    omega
  rw [dif_neg zero, if_neg most, if_neg least, if_pos le_rfl]
  have same : ((n <<< 53 * 10 ^ (0 : Int).toNat : Nat) : Rat) * 2 ^ (-53 + 0 : Int) = n := by
    rw [Nat.shiftLeft_eq]
    push_cast
    norm_num
    ring
  have whole : (2 : Rat) ^ (0 : Int) ≤ n := by
    rw [zpow_zero]
    exact_mod_cast positive
  have grid := gridExponent_ge_of_le whole
  have mantissa : 0 < n <<< 53 * 10 ^ (0 : Int).toNat := by
    rw [Nat.shiftLeft_eq]
    positivity
  have rounds := roundWithAccuracy_exact mantissa (e := -53 + 0) (by rw [same]; omega) .positive
  rw [same] at rounds
  exact rounds

theorem value?_powersOfTen : ∀ e : Fin 23,
    binary64Value? Float.exactlyRepresentablePowersOfTen[e] = some ((10 : Rat) ^ e.val) := by
  decide +kernel

theorem two_pow_le {k : Nat} (few : k ≤ 1000) : (2 : Rat) ^ k ≤ 2 ^ (1000 : Int) := by
  have exponent : (k : Int) ≤ 1000 := by exact_mod_cast few
  calc (2 : Rat) ^ k = 2 ^ (k : Int) := (zpow_natCast 2 k).symm
    _ ≤ 2 ^ (1000 : Int) := zpow_le_zpow_right₀ one_le_two exponent

theorem abs_natCast_le {n k : Nat} (short : n ≤ 2 ^ k) (few : k ≤ 1000) :
    |(n : Rat)| ≤ 2 ^ (1000 : Int) := by
  rw [abs_of_nonneg (Nat.cast_nonneg n)]
  calc (n : Rat) ≤ ((2 ^ k : Nat) : Rat) := Nat.cast_le.2 short
    _ = 2 ^ k := by rw [Nat.cast_pow, Nat.cast_ofNat]
    _ ≤ 2 ^ (1000 : Int) := two_pow_le few

theorem value?_toFloat {n : Nat} (short : n < 2 ^ 53) :
    Scalar.value? n.toUInt64.toFloat = some (n : Rat) := by
  have word : n.toUInt64.toNat = n := Nat.mod_eq_of_lt (by omega)
  have rounds := roundsTo_ofUInt64 n.toUInt64
  rw [word] at rounds
  obtain ⟨v, value, nearest⟩ := rounds.pack (abs_natCast_le short.le (by norm_num))
  rw [← nearest.unique (nearest_natCast short)]
  exact value

theorem roundsToFloat_ofNat {n k : Nat} (short : n ≤ 2 ^ k) (few : k ≤ 1000) :
    RoundsToFloat n (Scalar.ofNat n) := by
  have bounded := abs_natCast_le short few
  show RoundsToFloat n (Float.ofScientific n false 0)
  unfold Float.ofScientific
  by_cases small : n < 2 ^ 53
  · rw [dif_pos ⟨small, by norm_num⟩, if_neg Bool.false_ne_true]
    have one : (n : Rat) * 10 ^ (0 : Fin 23).val = n := mul_one _
    have product := roundsToFloat_mul (value?_toFloat small) (value?_powersOfTen 0)
    rw [one] at product
    exact product bounded
  · rw [dif_neg (fun both => small both.1), if_neg Bool.false_ne_true]
    exact (roundsTo_ofScientific n).pack bounded

/-- A decimal fraction is the quotient of two exact doubles. -/
theorem roundsToFloat_decimal {m e : Nat} (short : m < 2 ^ 53) (few : e ≤ 22) :
    RoundsToFloat (m / 10 ^ e) (OfScientific.ofScientific m true e) := by
  show RoundsToFloat (m / 10 ^ e) (Float.ofScientific m true e)
  unfold Float.ofScientific
  rw [dif_pos ⟨short, few⟩, if_pos rfl]
  refine roundsToFloat_div (value?_toFloat short) (value?_powersOfTen ⟨e, by omega⟩)
    (by positivity) ?_
  have bounded := abs_natCast_le short.le (by norm_num)
  have one : (1 : Rat) ≤ 10 ^ e := one_le_pow₀ (by norm_num)
  rw [abs_div, abs_of_pos (by positivity : (0 : Rat) < 10 ^ e)]
  exact (div_le_self (abs_nonneg _) one).trans bounded

/-! ### Values and order -/

section Order

variable {x y : Float} {p q : Rat}

theorem value?_neg (own : Scalar.value? x = some p) (bounded : |p| ≤ 2 ^ (1000 : Int)) :
    Scalar.value? (-x) = some (-p) := by
  have packed := (denotes_unpack own).neg.unpack_pack (by rwa [abs_neg])
  exact (binary64Value?_eq _).trans packed.2

theorem nearest_of_value? (own : Scalar.value? x = some p) : Nearest p p :=
  (denotes_unpack own).nearest

theorem lt_iff_of_value? (left : Scalar.value? x = some p) (right : Scalar.value? y = some q) :
    x < y ↔ p < q := by
  have compared := (denotes_unpack left).compare (denotes_unpack right)
  show decide ((x.toModel.unpack.compare y.toModel.unpack == some .lt) = true) = true ↔ _
  rw [compared]
  simp [compare_lt_iff_lt]

theorem le_iff_of_value? (left : Scalar.value? x = some p) (right : Scalar.value? y = some q) :
    x ≤ y ↔ p ≤ q := by
  have compared := (denotes_unpack left).compare (denotes_unpack right)
  show decide ((x.toModel.unpack.compare y.toModel.unpack).any Ordering.isLE = true) = true ↔ _
  rw [compared]
  simp [Ordering.isLE_iff_ne_gt, compare_gt_iff_gt]

theorem beq_iff_of_value? (left : Scalar.value? x = some p) (right : Scalar.value? y = some q) :
    (x == y) = true ↔ p = q := by
  have compared := (denotes_unpack left).compare (denotes_unpack right)
  show (x.toModel.unpack.compare y.toModel.unpack == some .eq) = true ↔ _
  rw [compared]
  simp

/-- Nothing without a value is above a number but infinity. -/
theorem Denotes.valued_of_lt {f g : UnpackedFloat} (denotes : Denotes f p)
    (above : f.compare g = some .lt) :
    (∃ r, unpackedValue g = some r) ∨ g = .infinity .positive := by
  cases g with
  | zero sign => exact Or.inl ⟨0, rfl⟩
  | finite sign mantissa e positive =>
    exact Or.inl ⟨_, unpackedValue_finite sign mantissa e positive⟩
  | notANumber =>
    obtain ⟨_, rfl, _⟩ | ⟨_, _, _, _, rfl, _⟩ := denotes.cases
    · cases above
    · cases above
  | infinity sign =>
    cases sign with
    | positive => exact Or.inr rfl
    | negative =>
      obtain ⟨_, rfl, _⟩ | ⟨_, _, _, _, rfl, _⟩ := denotes.cases
      · cases above
      · cases above

/-- What lies between two doubles with values has one too. -/
theorem exists_value?_between {z : Float} (left : Scalar.value? x = some p)
    (right : Scalar.value? y = some q) (above : x < z) (below : z ≤ y) :
    ∃ r, Scalar.value? z = some r := by
  have lower : x.toModel.unpack.compare z.toModel.unpack = some .lt :=
    eq_of_beq (of_decide_eq_true above)
  have upper : (z.toModel.unpack.compare y.toModel.unpack).any Ordering.isLE = true :=
    of_decide_eq_true below
  have value : Scalar.value? z = unpackedValue z.toModel.unpack := binary64Value?_eq z
  rw [value]
  rcases (denotes_unpack left).valued_of_lt lower with valued | infinite
  · exact valued
  · rw [infinite] at upper
    obtain ⟨_, own, _⟩ | ⟨_, _, _, _, own, _⟩ := (denotes_unpack right).cases
    · rw [own] at upper
      cases upper
    · rw [own] at upper
      cases upper

end Order

end GossipGate
