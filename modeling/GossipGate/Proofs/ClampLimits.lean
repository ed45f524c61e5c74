import GossipGate.Proofs.SecondsClamp

namespace GossipGate

open Scalar

/-- From here on a whole number of seconds is rounded up to the first that is too long. -/
def roundedUp : Nat := 18446744073709550592

theorem gridExponent_long {q : Rat} (low : 2 ^ 63 ≤ q) (high : q < 2 ^ 64) :
    gridExponent q = 11 := by
  rw [gridExponent_of_log (k := 63) (by exact_mod_cast low) (by norm_num at high ⊢; exact high)]
  norm_num

theorem nearest_roundedUp : Nearest roundedUp (2 ^ 64) := by
  have grid : gridExponent roundedUp = 11 :=
    gridExponent_long (by norm_num [roundedUp]) (by norm_num [roundedUp])
  refine ⟨2 ^ 53, ⟨?_, fun _ => ⟨2 ^ 52, by norm_num⟩⟩, ?_⟩
  · rw [grid]
    norm_num [roundedUp]
  · rw [grid]
    norm_num

theorem nearest_below_roundedUp : Nearest (roundedUp - 1) (2 ^ 64 - 2 ^ 11) := by
  have grid : gridExponent (roundedUp - 1) = 11 :=
    gridExponent_long (by norm_num [roundedUp]) (by norm_num [roundedUp])
  refine ⟨2 ^ 53 - 1, nextWhole_of_lt ?_, ?_⟩
  · rw [grid]
    norm_num [roundedUp]
  · rw [grid]
    norm_num

namespace Duration

variable {d : Duration} {s w m p v : Rat} {x : Float}

theorem Measures.two_pow_le_iff (own : d.Measures Float s w m) :
    2 ^ 64 ≤ m ↔ roundedUp ≤ d.seconds := by
  have top : Nearest (2 ^ 64) (2 ^ 64) := nearest_two_pow (k := 64) (by norm_num)
  have positive := own.part_nonneg
  have le_one := own.part_le_one
  constructor
  · intro long
    by_contra short
    have below : (d.seconds : Rat) ≤ roundedUp - 1 := by
      have less : d.seconds + 1 ≤ roundedUp := by omega
      have cast : (d.seconds : Rat) + 1 ≤ roundedUp := by exact_mod_cast less
      linarith
    have whole := own.whole.mono nearest_below_roundedUp below
    have sum := own.sum.mono nearest_below_roundedUp (by norm_num [roundedUp]; linarith)
    linarith
  · intro long
    have whole := nearest_roundedUp.mono own.whole (by exact_mod_cast long)
    exact top.mono own.sum (by linarith)

/-- Between there and 2^64 seconds there is no double. -/
theorem lt_roundedUp (value : value? x = some p) (less : p < 2 ^ 64) : p < roundedUp := by
  by_contra above
  have top := nearest_roundedUp.mono (nearest_of_value? value) (not_lt.1 above)
  linarith

theorem nearestNanos_lt_limit_iff (value : value? x = some p) (positive : 0 ≤ p) :
    nearestNanos p < limit ↔ p < 2 ^ 64 := by
  have whole : (limit : Rat) = 2 ^ 64 * 1000000000 := by norm_num [limit]
  constructor
  · intro short
    by_contra long
    have scaled : (limit : Rat) ≤ p * 1000000000 := by linarith
    have most := le_nearestNanos positive scaled
    omega
  · intro less
    have below := lt_roundedUp value less
    have scaled : p * 1000000000 ≤ (roundedUp * 1000000000 : Nat) := by
      push_cast
      linarith
    exact (nearestNanos_le positive scaled).trans_lt (by norm_num [roundedUp, limit])

theorem Measures.whole_eq (own : d.Measures Float s w m) (few : d.seconds ≤ 2 ^ 53) :
    s = d.seconds := by
  refine own.whole.unique ?_
  rcases few.lt_or_eq with less | same
  · exact nearest_natCast less
  · rw [same]
    have top := nearest_two_pow (k := 53) (by norm_num)
    exact_mod_cast top

theorem Measures.nearestNanos_of_whole (own : d.Measures Float s w m) (whole : d.subsecond = 0)
    (few : d.seconds ≤ 2 ^ 53) : nearestNanos m = d.nanos := by
  have first := own.whole
  have sum := own.sum
  rw [own.whole_eq few] at first sum
  rw [own.part_eq_zero whole, add_zero] at sum
  have parts := d.seconds_add_subsecond
  rw [whole, Nat.cast_zero, zero_div, add_zero] at parts
  rw [sum.unique first]
  refine nearestNanos_of_near (Nat.cast_nonneg _) ?_
  rw [parts, div_mul_cancel₀ _ (by norm_num), sub_self, abs_zero]
  norm_num

/-- Up to 97 days the three roundings together stay below half a nanosecond. -/
theorem Measures.nearestNanos_of_short (own : d.Measures Float s w m)
    (short : d.nanos ≤ 2 ^ 23 * 1000000000) : nearestNanos m = d.nanos := by
  have few : d.seconds ≤ 2 ^ 23 := by
    unfold seconds
    omega
  have same := own.whole_eq (few.trans (by norm_num))
  have total : s + w ≤ 2 ^ (23 : Int) := by
    rw [same]
    exact own.parts_le short
  have above : 0 ≤ s + w := add_nonneg own.whole_nonneg own.part_nonneg
  have part : |w - d.subsecond / 1000000000| ≤ 2 ^ (0 - 54 : Int) :=
    own.part.error (by norm_num) (by positivity) (by rw [zpow_zero]; exact d.subsecond_le_one)
  have sum : |m - (s + w)| ≤ 2 ^ (23 - 54 : Int) := own.sum.error (by norm_num) above total
  have parts := d.seconds_add_subsecond
  refine nearestNanos_of_near own.nonneg ?_
  rw [abs_lt]
  rw [abs_le] at part sum
  norm_num at part sum ⊢
  constructor <;> linarith

/-- A duration that a shorter double reaches is not rounded up beyond all others. -/
theorem Measures.lt_two_pow (own : d.Measures Float s w m) (value : value? x = some p)
    (reaches : (d.nanos : Rat) ≤ p * 1000000000) (less : p < 2 ^ 64) : m < 2 ^ 64 := by
  refine lt_of_not_ge fun upper => ?_
  have long : (roundedUp : Rat) ≤ d.seconds := by exact_mod_cast own.two_pow_le_iff.1 upper
  have parts := d.seconds_add_subsecond
  have rest : (0 : Rat) ≤ d.subsecond / 1000000000 := by positivity
  have below := lt_roundedUp value less
  linarith

/-- Infinity, or a number of seconds that is not shorter. -/
def ReachedBy (d : Duration) (x : Float) : Prop :=
  0.0 < x ∧ value? x = none ∨ ∃ v, value? x = some v ∧ (d.nanos : Rat) ≤ v * 1000000000

theorem reachedBy_of_long (value : value? x = some v) (long : 2 ^ 64 ≤ v) : d.ReachedBy x := by
  have limited : (d.nanos : Rat) ≤ 2 ^ 64 * 1000000000 := by exact_mod_cast d.nanos_lt.le
  exact Or.inr ⟨v, value, by linarith⟩

end Duration

namespace TtlWindow

variable (w : TtlWindow) {x y : Float} {p : Rat}

/-- What cuts every number of seconds to the window. -/
structure ClampsTo (cut : Float → Except Fault Duration) : Prop where
  inside : ∀ x, ∃ d, cut x = .ok d ∧ w.contains d = true
  low : ∀ x, ¬IsNumber x ∨ x ≤ 0.0 → cut x = .ok w.min
  high : ∀ x, w.max.ReachedBy x → cut x = .ok w.max
  mono : ∀ x y a b, x ≤ y → cut x = .ok a → cut y = .ok b → a ≤ b

/-- The upper bound survives the way through a double and back. -/
def Attained : Prop :=
  ∃ d, Duration.fromSeconds (w.max.toSeconds : Float) = .ok d ∧ w.nearest d = w.max

/-- A finite number of seconds that is too long for a duration, at an upper bound that is rounded
up to such a one. -/
def Overflows (x : Float) : Prop :=
  roundedUp ≤ w.max.seconds ∧ ∃ v, value? x = some v ∧ 2 ^ 64 ≤ v

theorem attained_of_nearestNanos {m : Rat} (most : value? (w.max.toSeconds : Float) = some m)
    (positive : 0 ≤ m) (long : w.max.nanos ≤ Duration.nearestNanos m)
    (short : Duration.nearestNanos m < Duration.limit) : w.Attained := by
  obtain ⟨d, measured, nanos⟩ := Duration.fromSeconds_ok most positive short
  refine ⟨d, measured, w.nearest_of_max_le ?_⟩
  rw [Duration.le_def, nanos]
  exact long

theorem attained_of_short (short : w.max.nanos ≤ 2 ^ 23 * 1000000000) : w.Attained := by
  obtain ⟨_, _, _, own⟩ := w.max.exists_measures (α := Float)
  have same := own.nearestNanos_of_short short
  exact w.attained_of_nearestNanos own.value own.nonneg same.ge (same ▸ w.max.nanos_lt)

theorem attained_of_whole (whole : w.max.subsecond = 0) (few : w.max.seconds ≤ 2 ^ 53) :
    w.Attained := by
  obtain ⟨_, _, _, own⟩ := w.max.exists_measures (α := Float)
  have same := own.nearestNanos_of_whole whole few
  exact w.attained_of_nearestNanos own.value own.nonneg same.ge (same ▸ w.max.nanos_lt)

theorem clampSeconds_low (low : ¬IsNumber x ∨ x ≤ 0.0) : w.clampSeconds x = .ok w.min := by
  refine w.clampSeconds_of_not_lt fun above => ?_
  rcases low with strange | below
  · exact strange (isNumber_of_lt above)
  · exact not_lt_of_le below above

theorem clampSeconds_error_iff :
    w.clampSeconds x = .error .durationRange ↔ w.Overflows x := by
  obtain ⟨_, _, m, own⟩ := w.max.exists_measures (α := Float)
  have most := own.value
  have positive := own.nonneg
  unfold Overflows
  rw [← own.two_pow_le_iff]
  by_cases above : 0.0 < x
  · cases value : value? x with
    | none =>
      rw [w.clampSeconds_of_infinite above value]
      simp
    | some p =>
      have under := (RoundedScalar.lt_iff value?_zero value).1 above
      have least := value?_least value most
      have long : 2 ^ 64 ≤ min p m ↔ 2 ^ 64 ≤ m ∧ ∃ v, some p = some v ∧ 2 ^ 64 ≤ v := by
        simp [and_comm]
      rw [← long, ← not_lt,
        ← Duration.nearestNanos_lt_limit_iff least (le_min under.le positive), not_lt]
      constructor
      · intro failed
        by_contra short
        obtain ⟨d, done, _⟩ :=
          w.clampSeconds_ok_of_finite above value most positive (not_le.1 short)
        rw [done] at failed
        cases failed
      · exact w.clampSeconds_error_of_finite above value most positive
  · rw [w.clampSeconds_of_not_lt above]
    constructor
    · intro failed
      cases failed
    rintro ⟨_, v, value, long⟩
    exact absurd ((RoundedScalar.lt_iff value?_zero value).2 (by linarith)) above

/-- Where the upper bound is rounded up beyond a number that reaches it, both are long enough. -/
theorem clampSeconds_of_lt_max (above : 0.0 < x) (value : value? x = some p)
    (reaches : (w.max.nanos : Rat) ≤ p * 1000000000) (below : x < w.max.toSeconds) :
    w.clampSeconds x = .ok w.max ∧ w.Attained := by
  obtain ⟨_, _, m, own⟩ := w.max.exists_measures (α := Float)
  have under := (RoundedScalar.lt_iff value?_zero value).1 above
  have order := (RoundedScalar.lt_iff value own.value).1 below
  have limited := w.max.nanos_lt
  have less : p < 2 ^ 64 := order.trans_le (own.le_two_pow (by omega))
  have long := Duration.le_nearestNanos under.le reaches
  constructor
  · obtain ⟨d, done, nanos⟩ := w.clampSeconds_ok_of_finite above value own.value own.nonneg (by
      rw [min_eq_left order.le]
      exact (Duration.nearestNanos_lt_limit_iff value under.le).2 less)
    rw [min_eq_left order.le] at nanos
    have reached : w.max ≤ d := by
      rw [Duration.le_def, nanos]
      exact long
    rw [done, w.nearest_of_max_le reached]
  · have shorter := own.lt_two_pow value reaches less
    exact w.attained_of_nearestNanos own.value own.nonneg
      (long.trans (Duration.nearestNanos_mono under.le order.le))
      ((Duration.nearestNanos_lt_limit_iff own.value own.nonneg).2 shorter)

theorem clampSeconds_of_not_lt_max (above : 0.0 < x) (value : value? x = some p)
    (notBelow : ¬x < w.max.toSeconds) : w.clampSeconds x = .ok w.max ↔ w.Attained := by
  rw [w.clampSeconds_of_finite above value, Scalar.least, if_neg notBelow]
  unfold Attained
  cases Duration.fromSeconds (w.max.toSeconds : Float) with
  | error => simp [Except.map]
  | ok d => simp [Except.map]

theorem clampSeconds_high (reached : w.max.ReachedBy x) :
    w.clampSeconds x = .ok w.max ↔ value? x = none ∨ w.Attained := by
  rcases reached with ⟨above, infinite⟩ | ⟨p, value, reaches⟩
  · exact iff_of_true (w.clampSeconds_of_infinite above infinite) (Or.inl infinite)
  have finite : value? x ≠ none := by simp [value]
  rw [or_iff_right finite]
  by_cases above : 0.0 < x
  · by_cases below : x < w.max.toSeconds
    · obtain ⟨done, attained⟩ := w.clampSeconds_of_lt_max above value reaches below
      exact iff_of_true done attained
    · exact w.clampSeconds_of_not_lt_max above value below
  · -- Only a window of nothing but zero is reached by zero.
    have least := (RoundedScalar.lt_iff value?_zero value).not.1 above
    have nothing : (w.max.nanos : Rat) ≤ 0 := by linarith
    have zero : w.max.nanos = 0 := by exact_mod_cast le_antisymm nothing (Nat.cast_nonneg _)
    have ordered : w.min.nanos ≤ w.max.nanos := w.min_le_max
    have same : w.min = w.max := Duration.ext (by omega)
    rw [w.clampSeconds_of_not_lt above, same]
    exact iff_of_true rfl (w.attained_of_short (zero.trans_le (Nat.zero_le _)))

theorem clampSeconds_inside (inRange : ¬w.Overflows x) :
    ∃ d, w.clampSeconds x = .ok d ∧ w.contains d = true := by
  rw [← w.clampSeconds_error_iff] at inRange
  obtain ⟨_, _, m, own⟩ := w.max.exists_measures (α := Float)
  obtain ⟨d, done⟩ := w.clampSeconds_ok_of_short own.value own.nonneg fun p above value => by
    refine lt_of_not_ge fun long => inRange ?_
    exact w.clampSeconds_error_of_finite above value own.value own.nonneg long
  exact ⟨d, done, TtlBounds.contains_clampSeconds w.min_le_max done⟩

variable {w}

theorem Overflows.reachedBy (overflows : w.Overflows x) : w.max.ReachedBy x := by
  obtain ⟨_, v, value, long⟩ := overflows
  exact Duration.reachedBy_of_long value long

theorem Attained.not_overflows (attained : w.Attained) : ¬w.Overflows x := by
  intro overflows
  have done := (w.clampSeconds_high overflows.reachedBy).2 (Or.inr attained)
  rw [w.clampSeconds_error_iff.2 overflows] at done
  cases done

theorem Attained.clamps (attained : w.Attained) : w.ClampsTo w.clampSeconds where
  inside _ := w.clampSeconds_inside attained.not_overflows
  low _ := w.clampSeconds_low
  high _ reached := (w.clampSeconds_high reached).2 (Or.inr attained)
  mono _ _ _ _ := w.clampSeconds_mono

/-- A long number of seconds shows whether the upper bound is attained. -/
theorem ClampsTo.attained (clamps : w.ClampsTo w.clampSeconds) : w.Attained := by
  obtain ⟨v, value, rounds⟩ := RoundedScalar.ofNat (α := Float) (n := 2 ^ 64) le_rfl (by norm_num)
  have top : Nearest (2 ^ 64) (2 ^ 64) := nearest_two_pow (k := 64) (by norm_num)
  have long : 2 ^ 64 ≤ v := top.mono rounds (by norm_num)
  have reached : w.max.ReachedBy (ofNat (2 ^ 64) : Float) := Duration.reachedBy_of_long value long
  rcases (w.clampSeconds_high reached).1 (clamps.high _ reached) with infinite | attained
  · cases value.symm.trans infinite
  · exact attained

variable (w)

/-- Numbers of seconds are cut to the window, NaN and what is not above zero to its lower bound,
and in order, but for the way of the upper bound through a double and back. Where that changes it,
long numbers of seconds end at the changed bound, and where it leads beyond the longest duration,
they fail. Up to 97 days, and for whole seconds up to 2^53, it changes nothing. -/
theorem clampSeconds_clamps :
    (w.ClampsTo w.clampSeconds ↔ w.Attained) ∧
      (∀ x : Float, (w.clampSeconds x = .error .durationRange ↔ w.Overflows x) ∧
        (¬w.Overflows x → ∃ d, w.clampSeconds x = .ok d ∧ w.contains d = true) ∧
        (¬IsNumber x ∨ x ≤ 0.0 → w.clampSeconds x = .ok w.min) ∧
        (w.max.ReachedBy x → (w.clampSeconds x = .ok w.max ↔ value? x = none ∨ w.Attained)) ∧
        ∀ y a b, x ≤ y → w.clampSeconds x = .ok a → w.clampSeconds y = .ok b → a ≤ b) ∧
      (w.max.nanos ≤ 2 ^ 23 * 1000000000 → w.Attained) ∧
      (w.max.subsecond = 0 → w.max.seconds ≤ 2 ^ 53 → w.Attained) := by
  refine ⟨⟨ClampsTo.attained, Attained.clamps⟩, fun x => ?_, w.attained_of_short,
    w.attained_of_whole⟩
  exact ⟨w.clampSeconds_error_iff, w.clampSeconds_inside, w.clampSeconds_low, w.clampSeconds_high,
    fun _ _ _ => w.clampSeconds_mono⟩

theorem clampSeconds_clamps_minutes : minutesWindow.ClampsTo minutesWindow.clampSeconds ∧
    minutesWindow.clampSeconds (1e30 : Float) = .ok minutesWindow.max := by
  obtain ⟨clamps, _, short, _⟩ := clampSeconds_clamps minutesWindow
  have all := clamps.2 (short (by decide))
  exact ⟨all, by decide +kernel⟩

/-- The widest window there is. -/
def widestWindow : TtlWindow := ⟨⟨.zero, .ofNanos Duration.limit⟩, by decide⟩

/-- The upper bound is one second above the whole seconds that doubles hold. -/
def oddWindow : TtlWindow := ⟨⟨.zero, .ofSeconds 9007199254740993⟩, by decide⟩

theorem clampSeconds_beyond :
    (widestWindow.max.ReachedBy 1e30 ∧
      widestWindow.clampSeconds (1e30 : Float) = .error .durationRange) ∧
    oddWindow.max.ReachedBy 1e30 ∧
      oddWindow.clampSeconds (1e30 : Float) = .ok (.ofSeconds 9007199254740992) := by
  have value : value? (1e30 : Float) = some 1000000000000000019884624838656 := by decide +kernel
  have reached (d : Duration) : d.ReachedBy 1e30 := Duration.reachedBy_of_long value (by norm_num)
  exact ⟨⟨reached _, by decide +kernel⟩, reached _, by decide +kernel⟩

end TtlWindow

end GossipGate
