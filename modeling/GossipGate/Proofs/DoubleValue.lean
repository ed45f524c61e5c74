import GossipGate.Proofs.Comparison
import GossipGate.Proofs.DoubleRounding

namespace GossipGate

open Float.Model Float.Model.UnpackedFloat

section Fields

variable (b : BitVec Format.binary64.numBits)

theorem unpackMantissa_toNat : (unpackMantissa b).toNat = b.toNat % leadingBit := by
  simp [unpackMantissa, BitVec.extractLsb_toNat]

theorem unpackExponent_toNat : (unpackExponent b).toNat = b.toNat / leadingBit % 2048 := by
  simp [unpackExponent, BitVec.extractLsb_toNat, Nat.shiftRight_eq_div_pow]

theorem unpackSign_toNat : (unpackSign b).toNat = b.toNat / 9223372036854775808 := by
  have bound : b.toNat < 18446744073709551616 := b.isLt
  have small : b.toNat / 9223372036854775808 < 2 := by omega
  simp [unpackSign_def, BitVec.extractLsb'_toNat, Nat.shiftRight_eq_div_pow, Nat.mod_eq_of_lt small]

theorem unpackExponent_eq_allOnes : unpackExponent b = -1#_ ↔ (unpackExponent b).toNat = 2047 := by
  rw [← BitVec.toNat_inj]
  rfl

theorem unpackExponent_eq_zero : unpackExponent b = 0#_ ↔ (unpackExponent b).toNat = 0 := by
  rw [← BitVec.toNat_inj]
  rfl

theorem unpackMantissa_eq_zero : unpackMantissa b = 0#_ ↔ (unpackMantissa b).toNat = 0 := by
  rw [← BitVec.toNat_inj]
  rfl

end Fields

/-- The mantissa and the exponent that the fields of a word stand for. -/
inductive FieldsOf (exponent fraction mantissa : Nat) (e : Int) : Prop
  | subnormal : exponent = 0 → mantissa = fraction → e = -1074 →
      FieldsOf exponent fraction mantissa e
  | normal : 0 < exponent → mantissa = fraction + leadingBit → e = exponent - 1075 →
      FieldsOf exponent fraction mantissa e

theorem exists_fieldsOf (exponent fraction : Nat) :
    ∃ mantissa e, FieldsOf exponent fraction mantissa e := by
  rcases Nat.eq_zero_or_pos exponent with small | positive
  · exact ⟨_, _, .subnormal small rfl rfl⟩
  · exact ⟨_, _, .normal positive rfl rfl⟩

variable {b : BitVec Format.binary64.numBits}

theorem unpack_special (special : (unpackExponent b).toNat = 2047) :
    unpackedValue (UnpackedFloat.unpack Format.binary64 b) = none ∧
      Aligned (UnpackedFloat.unpack Format.binary64 b) := by
  simp only [UnpackedFloat.unpack, (unpackExponent_eq_allOnes b).2 special, if_true]
  split
  · exact ⟨rfl, trivial⟩
  · exact ⟨rfl, trivial⟩

theorem unpack_subnormal (small : (unpackExponent b).toNat = 0) :
    Denotes (UnpackedFloat.unpack Format.binary64 b)
      (signed (Sign.ofBitVec (unpackSign b)) ((unpackMantissa b).toNat * 2 ^ (-1074 : Int))) := by
  have bound : (unpackMantissa b).toNat < 4503599627370496 := (unpackMantissa b).isLt
  have finite : ¬0#11 = -1#11 := by decide
  simp only [UnpackedFloat.unpack, (unpackExponent_eq_zero b).2 small, finite, if_false, if_true]
  split
  · rename_i none
    rw [(unpackMantissa_eq_zero b).1 none, Nat.cast_zero, zero_mul]
    exact ⟨trivial, unpackedValue_zero _⟩
  · refine ⟨⟨by omega, le_rfl, fun normal => absurd normal (lt_irrefl _)⟩, ?_⟩
    exact unpackedValue_finite _ _ _ _

theorem unpack_normal (positive : 0 < (unpackExponent b).toNat)
    (finite : (unpackExponent b).toNat ≠ 2047) :
    Denotes (UnpackedFloat.unpack Format.binary64 b)
      (signed (Sign.ofBitVec (unpackSign b)) (((unpackMantissa b).toNat + leadingBit : Nat) *
        2 ^ ((unpackExponent b).toNat - 1075 : Int))) := by
  have bound : (unpackMantissa b).toNat < 4503599627370496 := (unpackMantissa b).isLt
  have leading : leadingBit = 4503599627370496 := rfl
  have mantissa : (1#1 ++ unpackMantissa b).toNat = (unpackMantissa b).toNat + leadingBit := by
    rw [BitVec.toNat_append, ← Nat.shiftLeft_add_eq_or_of_lt bound]
    simp [Nat.shiftLeft_eq, Nat.add_comm]
  simp only [UnpackedFloat.unpack, mt (unpackExponent_eq_allOnes b).1 finite,
    mt (unpackExponent_eq_zero b).1 positive.ne', if_false]
  refine ⟨⟨?_, ?_, fun _ => ?_⟩, ?_⟩
  · rw [mantissa, leading]
    omega
  · show -1074 ≤ ((unpackExponent b).toNat : Int) - 1075
    omega
  · rw [mantissa, leading]
    omega
  · rw [unpackedValue_finite, mantissa]
    rfl

theorem denotes_of_fieldsOf {mantissa : Nat} {e : Int} (finite : (unpackExponent b).toNat ≠ 2047)
    (shape : FieldsOf (unpackExponent b).toNat (unpackMantissa b).toNat mantissa e) :
    Denotes (UnpackedFloat.unpack Format.binary64 b)
      (signed (Sign.ofBitVec (unpackSign b)) (mantissa * 2 ^ e)) := by
  cases shape with
  | subnormal small own least =>
    rw [own, least]
    exact unpack_subnormal small
  | normal positive own biased =>
    rw [own, biased]
    exact unpack_normal positive finite

theorem mkRat_two_pow (numerator power : Nat) :
    mkRat numerator (Nat.pow 2 power) = numerator * 2 ^ (-(power : Int)) := by
  have whole : ((Nat.pow 2 power : Nat) : Rat) = 2 ^ power := Nat.cast_pow 2 power
  rw [Rat.mkRat_eq_div, zpow_neg, zpow_natCast, whole, div_eq_mul_inv, Int.cast_natCast]

/-- The size of a double by its fields. -/
theorem Binary64.magnitude?_eq {fields : Binary64} {mantissa : Nat} {e : Int}
    (finite : fields.exponent ≠ 2047)
    (shape : FieldsOf fields.exponent fields.fraction mantissa e) :
    fields.magnitude? = some ((mantissa : Rat) * 2 ^ e) := by
  unfold Binary64.magnitude?
  rw [if_neg finite]
  cases shape with
  | subnormal small own smallest =>
    -- As a number the power would be evaluated.
    have least : -((1074 : Nat) : Int) = -1074 := rfl
    rw [if_pos small, own, smallest]
    generalize 1074 = power at least ⊢
    rw [mkRat_two_pow, least]
  | normal positive own biased =>
    rw [if_neg positive.ne', own, biased]
    by_cases low : fields.exponent < 1075
    · have power : -((1075 - fields.exponent : Nat) : Int) = fields.exponent - 1075 := by omega
      rw [if_pos low, mkRat_two_pow, power]
    · rw [if_neg low]
      have power : ((fields.exponent : Int) - 1075) = ((fields.exponent - 1075 : Nat) : Int) := by
        omega
      have whole : ((Nat.pow 2 (fields.exponent - 1075) : Nat) : Rat) =
          2 ^ (fields.exponent - 1075) := Nat.cast_pow 2 _
      rw [power, zpow_natCast, Rat.mkRat_eq_div, Int.cast_natCast, Nat.cast_mul, whole,
        Nat.cast_one, div_one]

theorem signed_unpackSign (b : BitVec Format.binary64.numBits) (q : Rat) :
    signed (Sign.ofBitVec (unpackSign b)) q =
      if b.toNat / 9223372036854775808 = 1 then -q else q := by
  have sign := unpackSign_toNat b
  have bound : b.toNat < 18446744073709551616 := b.isLt
  have plus : unpackSign b = 0#1 ↔ b.toNat / 9223372036854775808 = 0 := by
    rw [← BitVec.toNat_inj, sign]
    rfl
  unfold Sign.ofBitVec
  by_cases negative : b.toNat / 9223372036854775808 = 1
  · rw [if_neg (by rw [plus]; omega), if_pos negative]
    rfl
  · rw [if_pos (by rw [plus]; omega), if_neg negative]
    rfl

/-- The value that the gate reads from the bits of a double is that of the unpacked double. -/
theorem binary64Value?_eq (x : Float) : binary64Value? x = unpackedValue x.toModel.unpack := by
  let b : BitVec Format.binary64.numBits := x.toModel.toBits.toBitVec
  have exponent : (Binary64.ofFloat x).exponent = (unpackExponent b).toNat :=
    (unpackExponent_toNat b).symm
  have fraction : (Binary64.ofFloat x).fraction = (unpackMantissa b).toNat :=
    (unpackMantissa_toNat b).symm
  show ((Binary64.ofFloat x).magnitude?.map fun q =>
    if (Binary64.ofFloat x).negative then -q else q) =
      unpackedValue (UnpackedFloat.unpack Format.binary64 b)
  by_cases special : (unpackExponent b).toNat = 2047
  · unfold Binary64.magnitude?
    rw [(unpack_special special).1, if_pos (exponent.trans special)]
    rfl
  · obtain ⟨mantissa, e, shape⟩ := exists_fieldsOf (unpackExponent b).toNat (unpackMantissa b).toNat
    have value := (denotes_of_fieldsOf special shape).2
    rw [← exponent, ← fraction] at shape
    rw [value, Binary64.magnitude?_eq (exponent ▸ special) shape, signed_unpackSign,
      Option.map_some]
    by_cases negative : b.toNat / 9223372036854775808 = 1
    · have own : (Binary64.ofFloat x).negative = true := decide_eq_true negative
      rw [if_pos own, if_pos negative]
    · have own : ¬(Binary64.ofFloat x).negative = true :=
        fun same => negative (of_decide_eq_true same)
      rw [if_neg own, if_neg negative]

theorem aligned_unpack (x : Float) : Aligned x.toModel.unpack := by
  let b : BitVec Format.binary64.numBits := x.toModel.toBits.toBitVec
  by_cases special : (unpackExponent b).toNat = 2047
  · exact (unpack_special special).2
  · obtain ⟨mantissa, e, shape⟩ := exists_fieldsOf (unpackExponent b).toNat (unpackMantissa b).toNat
    exact (denotes_of_fieldsOf special shape).1

theorem denotes_unpack {x : Float} {q : Rat} (value : Scalar.value? x = some q) :
    Denotes x.toModel.unpack q :=
  ⟨aligned_unpack x, (binary64Value?_eq x).symm.trans value⟩

/-! ### Packing -/

theorem Denotes.exponent_le {f : UnpackedFloat} {q : Rat} (denotes : Denotes f q)
    (bounded : |q| ≤ 2 ^ (1000 : Int)) {sign : Sign} {mantissa : Nat} {e : Int}
    {positive : 0 < mantissa} (finite : f = .finite sign mantissa e positive) : e ≤ 948 := by
  subst finite
  obtain ⟨⟨_, small, filled⟩, value⟩ := denotes
  rw [unpackedValue_finite] at value
  by_contra large
  have least : (2 : Rat) ^ 52 ≤ mantissa := by exact_mod_cast filled (by omega)
  have unit : (0 : Rat) < 2 ^ e := by positivity
  have magnitude : |q| = mantissa * 2 ^ e := by
    rw [← Option.some.inj value]
    have positive : (0 : Rat) ≤ mantissa * 2 ^ e := by positivity
    cases sign
    · exact (abs_neg _).trans (abs_of_nonneg positive)
    · exact abs_of_nonneg positive
  have more : (2 : Rat) ^ (1001 : Int) ≤ mantissa * 2 ^ e := by
    calc (2 : Rat) ^ (1001 : Int) = 2 ^ 52 * 2 ^ (949 : Int) := by
          rw [← zpow_natCast, ← zpow_add₀ (by norm_num)]
          rfl
      _ ≤ mantissa * 2 ^ e := by
          refine mul_le_mul least ?_ (by positivity) (by positivity)
          exact zpow_le_zpow_right₀ (by norm_num) (by omega)
  have less : (2 : Rat) ^ (1000 : Int) < 2 ^ (1001 : Int) :=
    zpow_lt_zpow_right₀ (by norm_num) (by norm_num)
  rw [magnitude] at bounded
  exact absurd (more.trans bounded) (not_le.2 less)

theorem denotes_packComponents (sign : Sign) {exponent : BitVec 11} {fraction : BitVec 52}
    {mantissa : Nat} {e : Int} (finite : exponent.toNat ≠ 2047)
    (shape : FieldsOf exponent.toNat fraction.toNat mantissa e) :
    Denotes (UnpackedFloat.unpack Format.binary64
        (packComponents Format.binary64 sign exponent fraction))
      (signed sign (mantissa * 2 ^ e)) := by
  have denotes := @denotes_of_fieldsOf (packComponents Format.binary64 sign exponent fraction)
    mantissa e
  rw [unpackExponent_packComponents, unpackMantissa_packComponents, unpackSign_packComponents,
    Sign.ofBitVec_toBitVec] at denotes
  exact denotes finite shape

/-- A double that is not too large is packed and unpacked as it is. -/
theorem Denotes.unpack_pack {f : UnpackedFloat} {q : Rat} (denotes : Denotes f q)
    (bounded : |q| ≤ 2 ^ (1000 : Int)) :
    Denotes (UnpackedFloat.unpack Format.binary64 (UnpackedFloat.pack Format.binary64 f)) q := by
  obtain ⟨sign, rfl, rfl⟩ | ⟨sign, mantissa, e, positive, rfl, rfl, fits, small, filled⟩ :=
    denotes.cases
  · have finite : (0 : BitVec 11).toNat ≠ 2047 := by decide
    have fraction : 0 = (0 : BitVec 52).toNat := rfl
    have packed := denotes_packComponents sign finite (.subnormal rfl fraction rfl)
    have zero : signed sign (((0 : Nat) : Rat) * 2 ^ (-1074 : Int)) = 0 := by
      rw [Nat.cast_zero, zero_mul]
      cases sign
      · exact neg_zero
      · rfl
    rw [zero] at packed
    exact packed
  have large := denotes.exponent_le bounded rfl
  have biased : (e + (Format.binary64.exponentBias : Int) +
      (Format.binary64.mantissaBitsWithoutImplicit : Int)).toNat = (e + 1075).toNat := by
    have sum : e + (Format.binary64.exponentBias : Int) +
        (Format.binary64.mantissaBitsWithoutImplicit : Int) = e + 1023 + 52 := rfl
    omega
  have bits : (2 : Nat) ^ Format.binary64.exponentBits = 2048 := rfl
  have log : mantissa.log2 + 1 = Format.binary64.mantissaBits ↔ 2 ^ 52 ≤ mantissa := by
    have size : Format.binary64.mantissaBits = 53 := rfl
    have below := (Nat.log2_lt positive.ne').2 fits
    rw [size, ← Nat.le_log2 positive.ne']
    omega
  unfold UnpackedFloat.pack
  simp only [biased, bits, log]
  rw [if_neg (by omega)]
  split
  · rename_i normal
    have exponent : (BitVec.ofNat 11 (e + 1075).toNat).toNat = (e + 1075).toNat := by
      rw [BitVec.toNat_ofNat]
      omega
    have leading : leadingBit = 2 ^ 52 := rfl
    refine denotes_packComponents sign (by omega) (.normal (by omega) ?_ (by omega))
    rw [BitVec.toNat_ofNat]
    omega
  · rename_i subnormal
    have least : e = -1074 := by
      by_contra other
      exact subnormal (filled (by omega))
    refine denotes_packComponents sign (by decide) (.subnormal rfl ?_ least)
    rw [BitVec.toNat_ofNat]
    exact (Nat.mod_eq_of_lt (not_le.1 subnormal)).symm

end GossipGate
