import GossipGate.Proofs.MeasuredDuration
import GossipGate.Proofs.TtlBounds

namespace GossipGate

variable {α : Type} [Scalar α] [RoundedScalar α]

open Scalar

variable {k : Nat}

/-- A product with a number of the unit interval is at most the multiple by the bound. -/
theorem Scalar.UpTo.scale {x y : α} {w : Rat} (own : UpTo k x) (weight : value? y = some w)
    (positive : 0 ≤ w) (le_one : w ≤ 1) (few : k ≤ 1000) :
    ∃ v, value? (x * y) = some v ∧ 0 ≤ v ∧ v ≤ 2 ^ k * w := by
  obtain ⟨a, value, above, below⟩ := own
  have product : a * w ≤ 2 ^ k * w := mul_le_mul_of_nonneg_right below positive
  have bounded : |a * w| ≤ 2 ^ k := by
    rw [abs_of_nonneg (mul_nonneg above positive)]
    exact product.trans (mul_le_of_le_one_right (by positivity) le_one)
  obtain ⟨v, result, rounds⟩ := RoundedScalar.mul value weight bounded few
  exact ⟨v, result, rounds.nonneg (mul_nonneg above positive),
    rounds.mono (RoundedScalar.rounds_value weight).scaled product⟩

/-- A mean of two numbers does not leave the interval from zero to a power of two, although its
weights and its parts are rounded. -/
theorem Scalar.UpTo.blend {average sample rate : α} (first : UpTo k average)
    (second : UpTo k sample) (weight : UpTo 0 rate) (few : k + 1 ≤ 1000) :
    UpTo k (blend average sample rate) := by
  obtain ⟨w, ownRate, positive, le_one⟩ := weight
  rw [pow_zero] at le_one
  have unit : |1 - w| ≤ 2 ^ 0 := by
    rw [pow_zero, abs_of_nonneg (by linarith)]
    linarith
  obtain ⟨o, other, complement⟩ := RoundedScalar.sub value?_one ownRate unit (by norm_num)
  have above : 0 ≤ o := complement.nonneg (by linarith)
  have below : o ≤ 1 := complement.mono Rounding.rounds_one (by linarith)
  obtain ⟨l, left, leftAbove, leftBelow⟩ := first.scale other above below (by omega)
  obtain ⟨m, right, rightAbove, rightBelow⟩ := second.scale ownRate positive le_one (by omega)
  have power : (0 : Rat) < 2 ^ k := by positivity
  have bounded : |l + m| ≤ 2 ^ (k + 1) := by
    have most : 2 ^ k * o ≤ 2 ^ k := mul_le_of_le_one_right power.le below
    have least : 2 ^ k * w ≤ 2 ^ k := mul_le_of_le_one_right power.le le_one
    rw [abs_of_nonneg (by linarith), pow_succ]
    linarith
  obtain ⟨v, value, sum⟩ := RoundedScalar.add left right bounded few
  exact ⟨v, value, sum.nonneg (by linarith),
    complement.weights_le sum (by linarith) positive le_one⟩

/-- The longest gap that two readings of the clock can leave, and some more. -/
abbrev longestGap : Nat := 2 ^ 55 * 1000000000

namespace Traffic

variable {t : Traffic α}

/-- The average gap never becomes too long to be measured. -/
theorem nextGap_ok (short : t.averageGap.nanos ≤ longestGap) {gap : Duration}
    (latest : gap.nanos ≤ longestGap) {rate : α} (weight : UpTo 0 rate) :
    ∃ d, t.nextGap gap rate = .ok d ∧ d.nanos ≤ longestGap := by
  unfold nextGap
  split
  · exact ⟨gap, rfl, latest⟩
  · have average := Duration.toSeconds_upTo (α := α) short
    have sample := Duration.toSeconds_upTo (α := α) latest
    exact Duration.fromSeconds_of_upTo (average.blend sample weight (by norm_num)) (by norm_num)

theorem arrive_ok (short : t.averageGap.nanos ≤ longestGap) {now : Nat}
    (reading : now < UInt64.size) {rate : α} (weight : UpTo 0 rate) :
    ∃ arrived, t.arrive now rate = .ok arrived ∧ arrived.1.averageGap.nanos ≤ longestGap := by
  unfold arrive
  cases last : t.lastSeen with
  | none => exact ⟨_, rfl, short⟩
  | some previous =>
    have gap : (Duration.ofMillis (now - previous)).nanos ≤ longestGap := by
      have size : UInt64.size = 18446744073709551616 := rfl
      unfold Duration.ofMillis Duration.ofNanos longestGap
      dsimp only
      omega
    obtain ⟨d, next, bounded⟩ := nextGap_ok short gap weight
    simp only [next, bind, Except.bind]
    exact ⟨_, rfl, bounded⟩

end Traffic

theorem Config.learningRate_upTo {c : Config α} (usable : c.problem? = none) :
    UpTo 0 c.learningRate := by
  have weight := (fits usable).learningRate
  obtain ⟨v, value⟩ := RoundedScalar.between value?_zero value?_one weight.1 weight.2
  refine ⟨v, value, ?_, ?_⟩
  · exact ((RoundedScalar.lt_iff value?_zero value).1 weight.1).le
  · rw [pow_zero]
    exact (RoundedScalar.le_iff value value?_one).1 weight.2

namespace Engine

variable {e : Engine α} {now : Nat} {m : Message}

/-- All that is known about arrivals can be measured. -/
structure Measurable (e : Engine α) : Prop where
  rate : UpTo 0 e.tuning.learningRate
  gaps : ∀ messageType t, e.traffic.get? messageType = some t → t.averageGap.nanos ≤ longestGap

omit [RoundedScalar α] in
theorem Measurable.congr {gate : Engine α} (measurable : e.Measurable)
    (tuning : gate.tuning = e.tuning) (traffic : gate.traffic = e.traffic) : gate.Measurable := by
  obtain ⟨rate, gaps⟩ := measurable
  exact ⟨tuning ▸ rate, traffic ▸ gaps⟩

omit [RoundedScalar α] in
theorem Measurable.reordered {gate : Engine α} (measurable : e.Measurable)
    (reordered : e.Reordered gate) : gate.Measurable := by
  obtain ⟨store, _, rfl⟩ := reordered
  exact measurable.congr rfl rfl

omit [RoundedScalar α] in
theorem Measurable.trafficRecord (measurable : e.Measurable) (messageType : String) :
    (e.trafficRecord messageType).averageGap.nanos ≤ longestGap := by
  unfold Engine.trafficRecord
  cases stored : e.traffic.get? messageType with
  | none => exact Nat.zero_le _
  | some t => exact measurable.gaps messageType t stored

/-- The arrival of a message is measured without a fault. -/
theorem Measurable.measure (measurable : e.Measurable) (reading : now < UInt64.size)
    (m : Message) (blocked : Bool) : ∃ measured, e.measure now m blocked = .ok measured ∧
      measured.1.averageGap.nanos ≤ longestGap := by
  have own := measurable.trafficRecord m.messageType
  let counted := (e.trafficRecord m.messageType).countSeen.recordSize m.metadata.bytes
    e.tuning.learningRate
  have short : counted.averageGap.nanos ≤ longestGap := by
    unfold counted Traffic.recordSize
    split <;> exact own
  cases blocked with
  | true => exact ⟨_, rfl, short⟩
  | false =>
    exact Traffic.arrive_ok short reading measurable.rate

theorem Measurable.moves (measurable : e.Measurable) (reading : now < UInt64.size)
    {last : Engine α} (moves : e.Moves now last) : last.Measurable := by
  cases moves with
  | noted | tracked | retiered => exact measurable.congr rfl rfl
  | met _ peer =>
    rw [meet_fst]
    exact measurable.congr rfl rfl
  | judged _ peer duplicate =>
    rw [judge_fst]
    exact measurable.congr rfl rfl
  | @measured _ m blocked measured done =>
    obtain ⟨again, counts, bounded⟩ := measurable.measure reading m blocked
    cases done.symm.trans counts
    refine ⟨measurable.rate, fun messageType t stored => ?_⟩
    rw [Table.get?_insert] at stored
    split at stored
    · cases stored
      exact bounded
    · exact measurable.gaps messageType t stored
  | repeated _ repeats =>
    refine ⟨measurable.rate, fun messageType t stored => ?_⟩
    rw [Table.get?_modify] at stored
    split at stored
    · obtain ⟨old, found, rfl⟩ := Option.map_eq_some_iff.1 stored
      exact measurable.gaps messageType old found
    · exact measurable.gaps messageType t stored
  | adjusted done =>
    rcases adjustTtl_adjusts done with same | ⟨change, learned, adjusts⟩
    · rw [same]
      exact measurable
    · rw [adjusts.last_eq]
      refine ⟨measurable.rate, fun messageType t stored => ?_⟩
      rw [Table.get?_mapValues] at stored
      obtain ⟨old, found, rfl⟩ := Option.map_eq_some_iff.1 stored
      obtain ⟨ttl, adapted, follows, _⟩ := learn_follow adjusts.learns found
      rw [follows]
      exact measurable.gaps messageType old found

/-- The bookkeeping of a message is done without a fault. -/
theorem Measurable.arrive (measurable : e.Measurable) (reading : now < UInt64.size)
    (m : Message) : ∃ a, e.arrive now m = .ok a := by
  have noted : ({ e with seen := e.seen + 1 } : Engine α).Measurable := measurable.congr rfl rfl
  let met := ({ e with seen := e.seen + 1 } : Engine α).meet m.peer now
  have known : met.1.Measurable := noted.moves reading (.met _ m.peer)
  let scorer := if e.profile.reputationScoring then met.2 else none
  obtain ⟨measured, counts, _⟩ := known.measure reading m (scorer.any Peer.blacklisted)
  unfold Engine.arrive
  dsimp only
  rw [counts]
  exact ⟨_, rfl⟩

end Engine

variable {c : Config α} {opened : Nat} {past : List (Step α)} {e : Engine α}

theorem Run.measurable (run : Run c opened past e)
    (clocks : ∀ step ∈ past, step.now < UInt64.size) : e.Measurable := by
  refine run.keeps (fun _ e => e.Measurable) (fun now => now < UInt64.size) clocks ?_
    (fun _ _ _ _ kept => kept) (fun _ _ _ reordered kept => kept.reordered reordered) ?_ ?_
  · intro reply started
    have rate := Config.learningRate_upTo (Engine.start_usable started)
    obtain ⟨ordered, rfl⟩ := Engine.start_assemble started
    exact ⟨rate, fun messageType t stored => by cases stored⟩
  · intro _ now e _ measurable
    exact measurable.congr rfl rfl
  · intro _ now e last reading moves measurable
    exact measurable.moves reading moves

end GossipGate
