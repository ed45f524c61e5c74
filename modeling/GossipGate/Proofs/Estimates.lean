import GossipGate.Engine.Admission
import GossipGate.Proofs.RoundedScalar

namespace GossipGate

variable {α : Type} [Scalar α] [RoundedScalar α]

namespace Scalar

variable {x y : α} {p q : Rat} {j k : Nat}

theorem abs_add_le_two_pow (left : |p| ≤ 2 ^ k) (right : |q| ≤ 2 ^ k) : |p + q| ≤ 2 ^ (k + 1) := by
  rw [pow_succ]
  linarith [abs_add_le p q]

theorem abs_sub_le_two_pow (left : |p| ≤ 2 ^ k) (right : |q| ≤ 2 ^ k) : |p - q| ≤ 2 ^ (k + 1) := by
  rw [pow_succ]
  linarith [abs_sub p q]

theorem abs_mul_le_two_pow (left : |p| ≤ 2 ^ j) (right : |q| ≤ 2 ^ k) :
    |p * q| ≤ 2 ^ (j + k) := by
  rw [abs_mul, pow_add]
  exact mul_le_mul left right (abs_nonneg q) (by positivity)

/-- A number with a value of bounded size. -/
def Within (k : Nat) (x : α) : Prop := ∃ v, value? x = some v ∧ |v| ≤ 2 ^ k

/-- A number with a value between zero and a power of two. -/
def UpTo (k : Nat) (x : α) : Prop := ∃ v, value? x = some v ∧ 0 ≤ v ∧ v ≤ 2 ^ k

omit [RoundedScalar α] in
theorem UpTo.within (upTo : UpTo k x) : Within k x := by
  obtain ⟨v, value, positive, le⟩ := upTo
  exact ⟨v, value, by rwa [abs_of_nonneg positive]⟩

theorem within_of_gives (given : (RoundedScalar.rounding α).Gives q x) (bounded : |q| ≤ 2 ^ k) :
    Within k x := by
  obtain ⟨v, value, rounds⟩ := given
  exact ⟨v, value, rounds.bounded bounded⟩

omit [RoundedScalar α] in
theorem Within.valued (within : Within k x) : ∃ v, value? x = some v := by
  obtain ⟨v, value, _⟩ := within
  exact ⟨v, value⟩

omit [RoundedScalar α] in
theorem Within.weaken (within : Within j x) (le : j ≤ k) : Within k x := by
  obtain ⟨v, value, bounded⟩ := within
  exact ⟨v, value, bounded.trans (pow_le_pow_right₀ one_le_two le)⟩

theorem Within.add (left : Within k x) (right : Within k y) (few : k + 1 ≤ 1000) :
    Within (k + 1) (x + y) := by
  obtain ⟨p, ownLeft, boundedLeft⟩ := left
  obtain ⟨q, ownRight, boundedRight⟩ := right
  have bounded := abs_add_le_two_pow boundedLeft boundedRight
  exact within_of_gives (RoundedScalar.add ownLeft ownRight bounded few) bounded

theorem Within.sub (left : Within k x) (right : Within k y) (few : k + 1 ≤ 1000) :
    Within (k + 1) (x - y) := by
  obtain ⟨p, ownLeft, boundedLeft⟩ := left
  obtain ⟨q, ownRight, boundedRight⟩ := right
  have bounded := abs_sub_le_two_pow boundedLeft boundedRight
  exact within_of_gives (RoundedScalar.sub ownLeft ownRight bounded few) bounded

theorem Within.mul (left : Within j x) (right : Within k y) (few : j + k ≤ 1000) :
    Within (j + k) (x * y) := by
  obtain ⟨p, ownLeft, boundedLeft⟩ := left
  obtain ⟨q, ownRight, boundedRight⟩ := right
  have bounded := abs_mul_le_two_pow boundedLeft boundedRight
  exact within_of_gives (RoundedScalar.mul ownLeft ownRight bounded few) bounded

/-- A quotient by at least one is not larger. -/
theorem Within.div (left : Within k x) (right : value? y = some q) (one_le : 1 ≤ q)
    (few : k ≤ 1000) : Within k (x / y) := by
  obtain ⟨p, ownLeft, boundedLeft⟩ := left
  have bounded : |p / q| ≤ 2 ^ k := by
    rw [abs_div, abs_of_pos (by linarith : 0 < q)]
    exact (div_le_self (abs_nonneg p) one_le).trans boundedLeft
  have other : q ≠ 0 := by linarith
  exact within_of_gives (RoundedScalar.div ownLeft right other bounded few) bounded

theorem Within.neg (within : Within k x) (few : k ≤ 1000) : Within k (-x) := by
  obtain ⟨p, value, bounded⟩ := within
  exact ⟨-p, RoundedScalar.neg value bounded few, by rwa [abs_neg]⟩

theorem within_ofNat {n : Nat} (short : n ≤ 2 ^ k) (few : k ≤ 1000) :
    Within k (ofNat n : α) := by
  refine within_of_gives (RoundedScalar.ofNat short few) ?_
  rw [abs_of_nonneg (Nat.cast_nonneg n)]
  exact_mod_cast short

theorem upTo_decimal {m e : Nat} (fits : m ≤ 2 ^ k * 10 ^ e ∧ m < 2 ^ 53 ∧ e ≤ 22) :
    UpTo k (OfScientific.ofScientific m true e : α) := by
  obtain ⟨le, short, few⟩ := fits
  obtain ⟨v, value, rounds⟩ := RoundedScalar.decimal (α := α) short few
  refine ⟨v, value, rounds.nonneg (by positivity), rounds.le_two_pow ?_⟩
  have power : (0 : Rat) < 10 ^ e := by positivity
  rw [div_le_iff₀ power]
  exact_mod_cast le

theorem within_decimal {m e : Nat} (fits : m ≤ 2 ^ k * 10 ^ e ∧ m < 2 ^ 53 ∧ e ≤ 22) :
    Within k (OfScientific.ofScientific m true e : α) :=
  (upTo_decimal fits).within

theorem one_le_decimal {m e : Nat} (fits : 10 ^ e ≤ m ∧ m < 2 ^ 53 ∧ e ≤ 22) :
    ∃ q, value? (OfScientific.ofScientific m true e : α) = some q ∧ 1 ≤ q := by
  obtain ⟨le, short, few⟩ := fits
  obtain ⟨q, value, rounds⟩ := RoundedScalar.decimal (α := α) short few
  refine ⟨q, value, Rounding.rounds_one.mono rounds ?_⟩
  have power : (0 : Rat) < 10 ^ e := by positivity
  rw [le_div_iff₀ power, one_mul]
  exact_mod_cast le

theorem one_le_ofNat {n : Nat} (positive : 0 < n) (short : n ≤ 2 ^ k) (few : k ≤ 1000) :
    ∃ q, value? (ofNat n : α) = some q ∧ 1 ≤ q := by
  obtain ⟨q, value, rounds⟩ := RoundedScalar.ofNat (α := α) short few
  exact ⟨q, value, Rounding.rounds_one.mono rounds (by exact_mod_cast positive)⟩

/-- A decimal fraction that needs no rounding is its own value. -/
theorem value?_decimal {m e : Nat} (own : (RoundedScalar.rounding α).Rounds q q)
    (equal : (m : Rat) / 10 ^ e = q) (short : m < 2 ^ 53) (few : e ≤ 22) :
    value? (OfScientific.ofScientific m true e : α) = some q := by
  obtain ⟨v, value, rounds⟩ := RoundedScalar.decimal (α := α) short few
  rw [equal] at rounds
  rw [← rounds.unique own]
  exact value

theorem value?_zero : value? (0.0 : α) = some 0 :=
  value?_decimal Rounding.rounds_zero (by norm_num) (by norm_num) (by norm_num)

theorem value?_one : value? (1.0 : α) = some 1 :=
  value?_decimal Rounding.rounds_one (by norm_num) (by norm_num) (by norm_num)

theorem within_one : Within 0 (1.0 : α) := within_decimal (by norm_num)

theorem within_tenth : Within 0 (0.1 : α) := within_decimal (by norm_num)

/-- A number with a value between two others. -/
structure Inside (lo hi x : α) : Prop where
  valued : ∃ v, value? x = some v
  above : lo ≤ x
  below : x ≤ hi

theorem inside_clamp {lo hi : α} (lower : value? lo = some p) (upper : value? hi = some q)
    (ordered : p ≤ q) (valued : ∃ v, value? x = some v) : Inside lo hi (clamp lo hi x) := by
  obtain ⟨v, value⟩ := valued
  unfold clamp
  split
  · exact ⟨⟨p, lower⟩, (RoundedScalar.le_iff lower lower).2 le_rfl,
      (RoundedScalar.le_iff lower upper).2 ordered⟩
  rename_i notBelow
  rw [RoundedScalar.lt_iff value lower, not_lt] at notBelow
  split
  · exact ⟨⟨q, upper⟩, (RoundedScalar.le_iff lower upper).2 ordered,
      (RoundedScalar.le_iff upper upper).2 le_rfl⟩
  rename_i notAbove
  rw [RoundedScalar.lt_iff upper value, not_lt] at notAbove
  exact ⟨⟨v, value⟩, (RoundedScalar.le_iff lower value).2 notBelow,
    (RoundedScalar.le_iff value upper).2 notAbove⟩

/-- What lies between a number that is not negative and one lies between zero and one. -/
theorem Inside.unit {lo : α} (inside : Inside lo 1.0 x) (lower : value? lo = some p)
    (positive : 0 ≤ p) : UpTo 0 x := by
  obtain ⟨v, value⟩ := inside.valued
  have le_one := (RoundedScalar.le_iff value value?_one).1 inside.below
  exact ⟨v, value, positive.trans ((RoundedScalar.le_iff lower value).1 inside.above),
    by rwa [pow_zero]⟩

theorem value?_tenth : ∃ q, value? (0.1 : α) = some q ∧ 0 ≤ q ∧ q ≤ 1 := by
  obtain ⟨v, value, rounds⟩ := RoundedScalar.decimal (α := α) (m := 1) (e := 1) (by norm_num)
    (by norm_num)
  exact ⟨v, value, rounds.nonneg (by norm_num), rounds.mono Rounding.rounds_one (by norm_num)⟩

theorem inside_one : Inside (0.1 : α) 1.0 1.0 := by
  obtain ⟨q, value, _, le_one⟩ := value?_tenth (α := α)
  exact ⟨⟨1, value?_one⟩, (RoundedScalar.le_iff value value?_one).2 le_one,
    (RoundedScalar.le_iff value?_one value?_one).2 le_rfl⟩

theorem within_share {part whole : Nat} (fewParts : part ≤ 2 ^ k) (fewWhole : whole ≤ 2 ^ k)
    (few : k ≤ 1000) : Within k (share part whole : α) := by
  unfold share
  split
  · exact within_decimal (by norm_num)
  · rename_i occupied
    obtain ⟨q, value, one_le⟩ := one_le_ofNat (α := α) (by omega : 0 < whole) fewWhole few
    exact (within_ofNat fewParts few).div value one_le few

theorem Within.blend {average sample rate : α} (first : Within k average) (second : Within k sample)
    (weight : Within 0 rate) (few : k + 2 ≤ 1000) : Within (k + 2) (blend average sample rate) := by
  have other : Within 1 (1.0 - rate) := within_one.sub weight (by norm_num)
  have left : Within (k + 1) (average * (1.0 - rate)) := first.mul other (by omega)
  have right : Within (k + 1) (sample * rate) := (second.mul weight (by omega)).weaken (by omega)
  exact left.add right (by omega)

end Scalar

namespace Peer

open Scalar

variable {k : Nat}

theorem within_targetScore {score duplicateRate : α} (own : Within 0 score)
    (rate : Within k duplicateRate) (few : k + 2 ≤ 1000) (duplicate : Bool) :
    Within (k + 2) (targetScore score duplicateRate duplicate) := by
  unfold targetScore
  cases duplicate with
  | true =>
    have sum : Within (k + 1) (1.0 + duplicateRate) :=
      (within_one.weaken (by omega)).add rate (by omega)
    have cost : Within (k + 1) (0.1 * (1.0 + duplicateRate)) :=
      (within_tenth.mul sum (by omega)).weaken (by omega)
    exact (own.weaken (by omega)).sub cost (by omega)
  | false =>
    have gain : Within 0 (0.02 : α) := within_decimal (by norm_num)
    exact (own.add gain (by omega)).weaken (by omega)

/-- Whatever a peer does, its score lies between zero and one. -/
theorem inside_nextScore {score duplicateRate rate : α} (own : Within 0 score)
    (duplicates : Within k duplicateRate) (weight : Within 0 rate) (few : k + 4 ≤ 1000)
    (duplicate : Bool) : Inside 0.0 1.0 (nextScore score duplicateRate rate duplicate) := by
  have target := within_targetScore own duplicates (by omega) duplicate
  have mean := (own.weaken (by omega)).blend target weight (by omega)
  exact inside_clamp value?_zero value?_one zero_le_one mean.valued

end Peer

/-- The exponential of what is not positive lies between zero and one. -/
def Scalar.ExpDecays (α : Type) [Scalar α] : Prop :=
  ∀ (x : α) (q : Rat), value? x = some q → q ≤ 0 → UpTo 0 (exp x)

namespace Confidence

open Scalar

variable {k : Nat}

theorem within_typeBonus (messageType : String) : Within 0 (typeBonus messageType : α) := by
  have half : Within 0 (0.05 : α) := within_decimal (by norm_num)
  have zero : Within 0 (0.0 : α) := within_decimal (by norm_num)
  unfold typeBonus
  split
  · exact within_tenth
  · exact within_tenth
  · exact half
  · exact half
  · exact half.neg (by norm_num)
  · exact half.neg (by norm_num)
  · exact zero

theorem inside_initial (hash messageType : String) {score : Option α}
    (scored : ∀ s, score = some s → Within 0 s) (size : Nat) :
    Inside 0.1 1.0 (initial hash messageType score size) := by
  obtain ⟨q, lower, _, le_one⟩ := value?_tenth (α := α)
  have base : Within 0 (0.7 : α) := within_decimal (by norm_num)
  have fifth : Within 0 (0.2 : α) := within_decimal (by norm_num)
  have half : Within 0 (0.05 : α) := within_decimal (by norm_num)
  let first : α := if 32 ≤ hash.utf8ByteSize then 0.7 + 0.1 else 0.7
  have long : Within 1 first := by
    unfold first
    split
    · exact base.add within_tenth (by norm_num)
    · exact base.weaken (by norm_num)
  have bonus := within_typeBonus (α := α) messageType
  have rest : ∀ known : α, Within 2 known → Within 4 (if 1048576 < size then
      known + typeBonus messageType + 0.05 else known + typeBonus messageType) := by
    intro known within
    have typed : Within 3 (known + typeBonus messageType) :=
      within.add (bonus.weaken (by norm_num)) (by norm_num)
    split
    · exact typed.add (half.weaken (by norm_num)) (by norm_num)
    · exact typed.weaken (by norm_num)
  refine inside_clamp lower value?_one le_one ?_
  cases score with
  | none => exact (rest first (long.weaken (by norm_num))).valued
  | some s =>
    have gain : Within 0 (s * 0.2) := (scored s rfl).mul fifth (by norm_num)
    have known : Within 2 (first + s * 0.2) := long.add (gain.weaken (by norm_num)) (by norm_num)
    exact (rest (first + s * 0.2) known).valued

theorem upTo_decay (decays : ExpDecays α) {n : Nat} (short : n ≤ 2 ^ k) (few : k ≤ 1000) :
    UpTo 0 (exp (-(ofNat n : α) / 7200000.0)) := by
  obtain ⟨p, value, rounds⟩ := RoundedScalar.ofNat (α := α) short few
  obtain ⟨q, divisor, one_le⟩ := one_le_decimal (α := α) (m := 72000000) (e := 1)
    (by norm_num)
  have bounded : |(n : Rat)| ≤ 2 ^ k := by
    rw [abs_of_nonneg (Nat.cast_nonneg n)]
    exact_mod_cast short
  have positive : 0 ≤ p := rounds.nonneg (Nat.cast_nonneg n)
  have negated := RoundedScalar.neg value (rounds.bounded bounded) few
  have size : |-p / q| ≤ 2 ^ k := by
    rw [abs_div, abs_neg, abs_of_pos (by linarith : 0 < q)]
    exact (div_le_self (abs_nonneg p) one_le).trans (rounds.bounded bounded)
  obtain ⟨v, quotient, rounded⟩ :=
    RoundedScalar.div negated divisor (by linarith : q ≠ 0) size few
  refine decays _ v quotient (rounded.mono Rounding.rounds_zero ?_)
  exact div_nonpos_of_nonpos_of_nonneg (by linarith) (by linarith)

theorem inside_updated (decays : ExpDecays α) {current : α} (own : Within 0 current)
    {seenCount sinceFirst : Nat} (seldom : seenCount ≤ 2 ^ k) (soon : sinceFirst ≤ 2 ^ k)
    (few : k + 3 ≤ 1000) {score : Option α} (scored : ∀ s, score = some s → Within 0 s) :
    Inside 0.1 1.0 (updated current seenCount sinceFirst score) := by
  obtain ⟨q, lower, _, le_one⟩ := value?_tenth (α := α)
  have hundredth : Within 0 (0.01 : α) := within_decimal (by norm_num)
  have most : Within 1 (1.3 : α) := within_decimal (by norm_num)
  have boost : Within (k + 1) (least (1.0 + ofNat seenCount * 0.01) 1.3 : α) := by
    have gain : Within k (ofNat seenCount * 0.01 : α) :=
      (within_ofNat seldom (by omega)).mul hundredth (by omega)
    unfold least
    split
    · exact (within_one.weaken (by omega)).add gain (by omega)
    · exact most.weaken (by omega)
  have decay := (upTo_decay decays soon (by omega)).within
  let worn : α := current * least (1.0 + ofNat seenCount * 0.01) 1.3 *
    exp (-(ofNat sinceFirst : α) / 7200000.0)
  have within : Within (k + 1) worn :=
    ((own.mul boost (by omega)).mul decay (by omega)).weaken (by omega)
  refine inside_clamp lower value?_one le_one ?_
  cases score with
  | none => exact (within.mul within_one (by omega)).valued
  | some s =>
    have half : Within 0 (0.5 : α) := within_decimal (by norm_num)
    have gain : Within 0 (s * 0.5) := (scored s rfl).mul half (by omega)
    have influence : Within 1 (0.5 + s * 0.5) := half.add gain (by omega)
    exact (within.mul influence (by omega)).valued

end Confidence

open Scalar in
/-- What an entry is worth is a number. -/
theorem Entry.within_retention {entry : Entry α} (confidence : Within 0 entry.confidence)
    (priority : entry.priority ≤ 15) (profile : Profile) {score : Option α}
    (scored : ∀ s, score = some s → Within 0 s) {now : Nat} (reading : now < UInt64.size) :
    Within 65 (entry.retention profile score now) := by
  have ten : Within 4 (10.0 : α) := within_decimal (by norm_num)
  have five : Within 3 (5.0 : α) := within_decimal (by norm_num)
  have three : Within 2 (3.0 : α) := within_decimal (by norm_num)
  have hour : ∃ q, value? (3600000.0 : α) = some q ∧ 1 ≤ q :=
    one_le_decimal (by norm_num)
  obtain ⟨q, divisor, one_le⟩ := hour
  let base : α := ofNat entry.priority * 10.0
  let confident : α := if profile.confidenceScoring then base + entry.confidence * 5.0 else base
  have first : Within 8 base := (within_ofNat (k := 4) (by omega) (by omega)).mul ten (by omega)
  have second : Within 9 confident := by
    have gain : Within 3 (entry.confidence * 5.0) := confidence.mul five (by omega)
    unfold confident
    split
    · exact first.add (gain.weaken (by omega)) (by omega)
    · exact first.weaken (by omega)
  have age : Within 64 (entry.ageHours now : α) := by
    have short : now - entry.lastSeen ≤ 2 ^ 64 := (Nat.sub_le _ _).trans reading.le
    exact (within_ofNat short (by omega)).div divisor one_le (by omega)
  have loss : Within 64 (entry.ageHours now * 0.1 : α) := age.mul within_tenth (by omega)
  cases score with
  | none => exact (second.weaken (by omega)).sub loss (by omega)
  | some s =>
    have gain : Within 2 (s * 3.0) := (scored s rfl).mul three (by omega)
    have third : Within 10 (confident + s * 3.0) := second.add (gain.weaken (by omega)) (by omega)
    exact (third.weaken (by omega)).sub loss (by omega)

end GossipGate
