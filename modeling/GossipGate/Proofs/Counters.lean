import GossipGate.Proofs.Tallies

namespace GossipGate

variable {α : Type} [Scalar α]

/-- Whether a change of the metrics counts a suppression. -/
def Sample.countsSuppression (sample : Sample α) : Bool :=
  sample.metric = .duplicatesSuppressed && sample.value.isNone

/-- Whether it counts one for the reason that the sender is blacklisted. -/
def Sample.countsBlacklisted (sample : Sample α) : Bool :=
  sample.countsSuppression && sample.labels[1]? = some Suppression.blacklisted.name

/-- The changes of the metrics that some calls caused, the latest call first. -/
def samples (past : List (Step α)) : List (Sample α) :=
  past.flatMap fun step => step.reply.events.flatMap Event.samples

theorem Event.countP_suppressions (event : Event α) :
    event.samples.countP Sample.countsSuppression = event.suppression?.toList.length ∧
      event.samples.countP Sample.countsBlacklisted =
        event.suppression?.toList.count .blacklisted := by
  cases event with
  | suppressed tier messageType reason => cases reason <;> exact ⟨rfl, rfl⟩
  | ttlAdjusted tier rate old change =>
    obtain ⟨ttl, direction⟩ := change
    cases direction <;> exact ⟨rfl, rfl⟩
  | _ => exact ⟨rfl, rfl⟩

/-- The metrics count the suppressions that events tell of. -/
theorem countP_suppressions (events : List (Event α)) :
    (events.flatMap Event.samples).countP Sample.countsSuppression =
        (suppressions events).length ∧
      (events.flatMap Event.samples).countP Sample.countsBlacklisted =
        (suppressions events).count .blacklisted := by
  induction events with
  | nil => exact ⟨rfl, rfl⟩
  | cons event rest ih =>
    have own := event.countP_suppressions
    have apart : suppressions (event :: rest) =
        event.suppression?.toList ++ suppressions rest := by
      unfold suppressions
      rw [List.filterMap_cons]
      cases event.suppression? <;> rfl
    rw [List.flatMap_cons, List.countP_append, List.countP_append, own.1, own.2, ih.1, ih.2, apart,
      List.length_append, List.count_append]
    exact ⟨rfl, rfl⟩

namespace Step

/-- Whether a call brought a message with a hash. -/
def isNamed (step : Step α) : Bool :=
  match step.call with
  | .message m => !m.hash.isEmpty
  | _ => false

def isSuppressed (step : Step α) : Bool := step.reply.value = .verdict true

/-- Whether a call brought a message with a hash of a sender on the blacklist. -/
def isTurnedAway (step : Step α) : Bool :=
  match step.call with
  | .message m => !m.hash.isEmpty && step.before.blocks m
  | _ => false

omit [Scalar α] in
theorem isSuppressed_message (e : Engine α) (now : Nat) (m : Message) (answer : Reply α Bool) :
    isSuppressed ⟨e, now, .message m, answer.map .verdict⟩ = answer.value := by
  cases value : answer.value <;> simp [isSuppressed, Reply.map, value]

omit [Scalar α] in
theorem isNamed_message (e : Engine α) (now : Nat) (m : Message) (reply : Reply α Answer) :
    (if isNamed ⟨e, now, .message m, reply⟩ then 1 else 0) = if m.hash.isEmpty then 0 else 1 := by
  cases hash : m.hash.isEmpty <;> simp [isNamed, hash]

omit [Scalar α] in
theorem isNamed_other {call : Call} (other : ∀ m, call ≠ .message m) (e : Engine α) (now : Nat)
    (reply : Reply α Answer) : isNamed ⟨e, now, call, reply⟩ = false := by
  cases call with
  | message m => exact absurd rfl (other m)
  | _ => rfl

/-- What a call adds to the counters and counts up in the metrics. -/
structure Counts (step : Step α) : Prop where
  seen : step.reply.engine.traffic.total Traffic.seen =
    step.before.traffic.total Traffic.seen + if step.isNamed then 1 else 0
  duplicates : step.reply.engine.traffic.total Traffic.duplicates =
    step.before.traffic.total Traffic.duplicates + if step.isSuppressed then 1 else 0
  told : (suppressions step.reply.events).length = if step.isSuppressed then 1 else 0
  blacklisted : (suppressions step.reply.events).count .blacklisted =
    if step.isTurnedAway then 1 else 0
  types : ∀ messageType, step.before.traffic.contains messageType = true ∨
    step.Brings messageType → step.reply.engine.traffic.contains messageType = true
  ordered : step.before.duplicates ≤ step.before.seen →
    step.reply.engine.duplicates ≤ step.reply.engine.seen
  few : step.reply.engine.seen ≤ step.before.seen + if step.isNamed then 1 else 0
  retimes : ({ step.before with
      seen := step.before.seen + if step.isNamed then 1 else 0 } : Engine α).Retimes
    step.reply.engine (adjustments step.reply.events)

end Step

namespace Engine

variable {e : Engine α} {now : Nat}

theorem perform_counts {call : Call} {reply : Reply α Answer}
    (performed : e.perform now call = .ok reply) : Step.Counts ⟨e, now, call, reply⟩ := by
  by_cases brought : ∃ m, call = .message m
  · obtain ⟨m, rfl⟩ := brought
    obtain ⟨answer, answered, rfl⟩ := perform_message performed
    have receives := receive_receives answered
    have tallies := receives.tallies
    have suppressed := Step.isSuppressed_message e now m answer
    obtain ⟨told, away⟩ : suppressions (answer.map Answer.verdict).events = _ ∧ _ :=
      receives.suppressions
    have named := Step.isNamed_message e now m (answer.map .verdict)
    refine ⟨?_, ?_, ?_, ?_, ?_, tallies.ordered, ?_, ?_⟩
    · rw [named]
      exact tallies.seen
    · rw [suppressed]
      exact tallies.duplicates
    · rw [suppressed, told]
      cases answer.value <;> rfl
    · have turned : Step.isTurnedAway ⟨e, now, .message m, answer.map .verdict⟩ = _ := away.symm
      rw [told, turned]
      cases answer.value <;> cases e.blocks m <;> rfl
    · rintro messageType (known | ⟨_, ⟨⟩, own⟩)
      · exact tallies.types messageType (Or.inl known)
      · exact tallies.types messageType (Or.inr own)
    · rw [named]
      exact tallies.few
    · rw [named]
      exact tallies.retimes
  · have upkeep : ∀ m, call ≠ .message m := fun m same => brought ⟨m, same⟩
    obtain ⟨traffic, seen, duplicates, global, other, quiet⟩ := perform_upkeep upkeep performed
    obtain ⟨none, unadjusted⟩ := reports_of_quiet quiet
    have unnamed := Step.isNamed_other upkeep e now reply
    have kept : Step.isTurnedAway ⟨e, now, call, reply⟩ = false := by
      cases call with
      | message m => exact absurd ⟨m, rfl⟩ brought
      | _ => rfl
    have passed : Step.isSuppressed ⟨e, now, call, reply⟩ = false := decide_eq_false other
    refine ⟨?_, ?_, ?_, ?_, ?_, ?_, ?_, ?_⟩
    · rw [traffic, unnamed]
      rfl
    · rw [traffic, passed]
      rfl
    · rw [none, passed]
      rfl
    · rw [none, kept]
      rfl
    · rintro messageType (known | ⟨m, same, _⟩)
      · rw [traffic]
        exact known
      · exact absurd ⟨m, same⟩ brought
    · rw [seen, duplicates]
      exact id
    · rw [seen]
      exact Nat.le_add_right _ _
    · exact Or.inl ⟨unadjusted, global⟩

end Engine

namespace Scalar

variable [RoundedScalar α]

/-- The quotient of a part by its whole lies between zero and one. -/
theorem inside_ratio {part whole k : Nat} (le : part ≤ whole) (positive : 0 < whole)
    (short : whole ≤ 2 ^ k) (few : k ≤ 1000) : Inside 0.0 1.0 (ratio part whole : α) := by
  obtain ⟨p, dividend, roundedPart⟩ := RoundedScalar.ofNat (α := α) (le.trans short) few
  obtain ⟨q, divisor, roundedWhole⟩ := RoundedScalar.ofNat (α := α) short few
  have above : 0 ≤ p := roundedPart.nonneg (Nat.cast_nonneg _)
  have below : p ≤ q := roundedPart.mono roundedWhole (Nat.cast_le.2 le)
  have one_le : 1 ≤ q := Rounding.rounds_one.mono roundedWhole (by exact_mod_cast positive)
  have unit : 0 ≤ p / q ∧ p / q ≤ 1 :=
    ⟨div_nonneg above (by linarith), (div_le_one (by linarith)).2 below⟩
  have bounded : |p / q| ≤ 2 ^ 0 := by
    rw [abs_of_nonneg unit.1, pow_zero]
    exact unit.2
  obtain ⟨v, value, quotient⟩ :=
    RoundedScalar.div dividend divisor (by linarith : q ≠ 0) bounded (by norm_num)
  have nonneg := quotient.nonneg unit.1
  have le_one := quotient.mono Rounding.rounds_one unit.2
  exact ⟨⟨v, value⟩, (RoundedScalar.le_iff value?_zero value).2 nonneg,
    (RoundedScalar.le_iff value value?_one).2 le_one⟩

end Scalar

/-- What the counters of a gate and the metrics come to after some calls. -/
structure Engine.Counted (e : Engine α) (past : List (Step α)) : Prop where
  seen : e.traffic.total Traffic.seen = past.countP Step.isNamed
  duplicates : e.traffic.total Traffic.duplicates = past.countP Step.isSuppressed
  suppressed : (samples past).countP Sample.countsSuppression = past.countP Step.isSuppressed
  blacklisted : (samples past).countP Sample.countsBlacklisted = past.countP Step.isTurnedAway
  ordered : e.duplicates ≤ e.seen
  few : e.seen ≤ past.countP Step.isNamed
  rated : ∀ step ∈ past, ∀ rate change, (rate, change) ∈ adjustments step.reply.events →
    ∃ part whole, part ≤ whole ∧ 0 < whole ∧ whole ≤ past.length ∧ rate = Scalar.ratio part whole

variable {c : Config α} {opened : Nat} {past : List (Step α)} {e : Engine α}

namespace Engine

theorem Counted.call {gate : Engine α} (counted : e.Counted past) (reordered : e.Reordered gate)
    {now : Nat} {call : Call} {reply : Reply α Answer}
    (performed : gate.perform now call = .ok reply) :
    reply.engine.Counted (⟨gate, now, call, reply⟩ :: past) := by
  obtain ⟨store, _, rfl⟩ := reordered
  have counts := perform_counts performed
  have ordered := counted.ordered
  have few := counted.few
  have told : ∀ p : Sample α → Bool,
      (samples (⟨e.withStore store, now, call, reply⟩ :: past)).countP p =
        (samples past).countP p + (reply.events.flatMap Event.samples).countP p := by
    intro p
    unfold samples
    rw [List.flatMap_cons, List.countP_append, Nat.add_comm]
  obtain ⟨all, listed⟩ := countP_suppressions reply.events
  refine ⟨?_, ?_, ?_, ?_, counts.ordered ordered, ?_, ?_⟩
  · rw [List.countP_cons, ← counted.seen]
    exact counts.seen
  · rw [List.countP_cons, ← counted.duplicates]
    exact counts.duplicates
  · rw [List.countP_cons, ← counted.suppressed, told, all]
    exact congrArg _ counts.told
  · rw [List.countP_cons, ← counted.blacklisted, told, listed]
    exact congrArg _ counts.blacklisted
  · rw [List.countP_cons]
    exact counts.few.trans (Nat.add_le_add_right few _)
  · intro step member rate change adjusted
    rcases List.mem_cons.1 member with rfl | earlier
    · obtain ⟨many, same⟩ := counts.retimes.rate adjusted
      refine ⟨e.duplicates, _, ordered.trans (Nat.le_add_right _ _), ?_, ?_, same⟩
      · exact Nat.lt_of_lt_of_le (by decide : 0 < 100) many
      show e.seen + (if _ then 1 else 0) ≤ past.length + 1
      have named := few.trans List.countP_le_length
      split <;> omega
    · obtain ⟨part, whole, le, positive, short, same⟩ :=
        counted.rated step earlier rate change adjusted
      exact ⟨part, whole, le, positive, Nat.le_succ_of_le short, same⟩

/-- No record of a type is ever deleted. -/
theorem Continues.types {later : List (Step α)} {last : Engine α}
    (continues : e.Continues later last) {messageType : String}
    (known : e.traffic.contains messageType = true) :
    last.traffic.contains messageType = true := by
  induction continues with
  | here => exact known
  | call _ reordered performed ih =>
    obtain ⟨store, _, rfl⟩ := reordered
    exact (perform_counts performed).types messageType (Or.inl ih)

end Engine

theorem Run.counted (run : Run c opened past e) : e.Counted past := by
  induction run with
  | start started =>
    obtain ⟨ordered, rfl⟩ := Engine.start_assemble started
    exact ⟨rfl, rfl, rfl, rfl, le_rfl, le_rfl, by simp⟩
  | call _ reordered performed ih => exact ih.call reordered performed

/-- All counters of a gate agree with the calls that it answered: the types of messages count the
messages with a hash and those that were suppressed, the metrics count the suppressions and those
for the blacklist, and no type is ever forgotten. The two counts behind the duplicate rate, which
are halved by adjustments, keep their order, so that the rate never leaves the unit interval. -/
theorem Run.counters [RoundedScalar α] (run : Run c opened past e) (few : past.length < 2 ^ 63) :
    e.traffic.total Traffic.seen = past.countP Step.isNamed ∧
      e.traffic.total Traffic.duplicates = past.countP Step.isSuppressed ∧
      (samples past).countP Sample.countsSuppression = past.countP Step.isSuppressed ∧
      (samples past).countP Sample.countsBlacklisted = past.countP Step.isTurnedAway ∧
      (∀ later last messageType, e.Continues later last →
        e.traffic.contains messageType = true → last.traffic.contains messageType = true) ∧
      e.duplicates ≤ e.seen ∧
      (∀ step ∈ past, ∀ rate change, (rate, change) ∈ adjustments step.reply.events →
        Scalar.Inside 0.0 1.0 rate) ∧
      ∀ gate, e.Reordered gate → ∀ now m a, gate.arrive now m = .ok a →
        Scalar.Inside 0.0 1.0 (Scalar.ratio a.engine.duplicates a.engine.seen : α) := by
  have counted := run.counted
  refine ⟨counted.seen, counted.duplicates, counted.suppressed, counted.blacklisted,
    fun _ _ _ continues => continues.types, counted.ordered, ?_, ?_⟩
  · intro step member rate change adjusted
    obtain ⟨part, whole, le, positive, short, rfl⟩ :=
      counted.rated step member rate change adjusted
    exact Scalar.inside_ratio le positive (short.trans few.le) (by norm_num)
  · rintro _ ⟨store, _, rfl⟩ now m a arrived
    obtain ⟨_, _, _, all, repeated⟩ := Engine.arrive_counted arrived
    have seen : a.engine.seen = e.seen + 1 := all
    have duplicates : a.engine.duplicates = e.duplicates := repeated
    have ordered := counted.ordered
    have bounded := counted.few.trans List.countP_le_length
    exact Scalar.inside_ratio (k := 63) (by omega) (by omega) (by omega) (by norm_num)

/-- One peer floods the gate and is blacklisted on the way; a minute later a message passes and the
counts behind the duplicate rate are halved. -/
def floodedCalls : List (Nat × Call) :=
  List.replicate 100 (0, .message floodMessage) ++ [(60000, .message ⟨"b", "t", "", .empty⟩)]

theorem counters_flooded : ∃ (past : List (Step Float)) (e : Engine Float),
    Run floodConfig 0 past e ∧ past.length < 2 ^ 63 ∧ past.countP Step.isNamed = 101 ∧
      past.countP Step.isSuppressed = 99 ∧ e.seen = 50 ∧ e.duplicates = 49 ∧
      (samples past).countP Sample.countsBlacklisted = past.countP Step.isTurnedAway := by
  have reaches : (Engine.assemble floodConfig
      (Config.minTtl_le_maxTtl floodConfig_usable) 0).engine.reaches floodedCalls
        (fun e => e.traffic.total Traffic.seen == 101 && e.traffic.total Traffic.duplicates == 99 &&
          e.seen == 50 && e.duplicates == 49) = true := by
    decide +kernel
  obtain ⟨past, e, run, length, _, totals⟩ := Run.of_reaches floodConfig_usable reaches
  simp only [Bool.and_eq_true, beq_iff_eq] at totals
  obtain ⟨⟨⟨seen, duplicates⟩, all⟩, repeated⟩ := totals
  have few : past.length < 2 ^ 63 := by
    rw [length]
    decide
  obtain ⟨named, suppressed, _, blacklisted, _⟩ := run.counters few
  exact ⟨past, e, run, few, named.symm.trans seen, suppressed.symm.trans duplicates, all, repeated,
    blacklisted⟩

end GossipGate
