import GossipGate.Proofs.GlobalTtl
import GossipGate.Proofs.Survivors

namespace GossipGate

/-! ### The detection of a spike, over exact numbers -/

namespace Anomaly

/-- The velocities above zero. -/
def moving (all : List Rat) : List Rat := all.filter fun v => 0 < v

/-- The mean of the velocities above zero. -/
def movingMean (all : List Rat) : Rat := (moving all).sum / (moving all).length

variable {exp : Rat → Rat} {messageType : String} {velocity threshold : Rat} {all : List Rat}
  {found : Anomaly Rat}

theorem mem_moving : velocity ∈ moving all ↔ velocity ∈ all ∧ 0 < velocity := by
  simp [moving]

theorem moving_perm {other : List Rat} (perm : all.Perm other) :
    (moving all).Perm (moving other) := perm.filter _

theorem movingMean_perm {other : List Rat} (perm : all.Perm other) :
    movingMean all = movingMean other := by
  unfold movingMean
  rw [(moving_perm perm).sum_eq, (moving_perm perm).length_eq]

theorem meanPositive?_eq (all : List Rat) : @meanPositive? Rat (exactScalar exp) all =
    if moving all = [] then none else some (movingMean all) := by
  let _ := exactScalar exp
  have zero : (0.0 : Rat) = 0 := by norm_num
  have same : (all.filter fun v => 0.0 < v) = moving all := by rw [zero]; rfl
  have total : (moving all).foldl (· + ·) 0.0 = (moving all).sum := by
    rw [zero, List.sum_eq_foldl]
  unfold meanPositive?
  simp only [same, total, List.isEmpty_iff]
  rfl

/-- A spike is a positive velocity above the threshold times the mean of the positive ones, of which
there is one at least. -/
theorem spike?_eq_some_iff :
    @spike? Rat (exactScalar exp) messageType velocity all threshold = some found ↔
      0 < velocity ∧ moving all ≠ [] ∧ movingMean all * threshold < velocity ∧
        found = .velocitySpike messageType velocity (movingMean all) := by
  let _ := exactScalar exp
  have zero : (0.0 : Rat) = 0 := by norm_num
  unfold spike?
  rw [meanPositive?_eq, zero]
  by_cases positive : 0 < velocity
  · rw [if_neg (not_le.2 positive)]
    by_cases none : moving all = []
    · simp [none]
    · rw [if_neg none]
      dsimp only
      split
      · rename_i above
        simp [positive, none, above, eq_comm]
      · rename_i below
        simp [below]
  · rw [if_pos (not_lt.1 positive)]
    simp [positive]

/-- No velocity is above the sum of the positive ones. -/
theorem le_sum_moving (member : velocity ∈ all) (positive : 0 < velocity) :
    velocity ≤ (moving all).sum :=
  List.single_le_sum (fun _ among => (mem_moving.1 among).2.le) velocity
    (mem_moving.2 ⟨member, positive⟩)

/-- A velocity that is a certain number of times the mean is one of more than that number. -/
theorem threshold_lt_moving (member : velocity ∈ all) (positive : 0 < velocity)
    (above : movingMean all * threshold < velocity) : threshold < (moving all).length := by
  have occupied : 0 < (moving all).length :=
    List.length_pos_of_mem (mem_moving.2 ⟨member, positive⟩)
  have count : (0 : Rat) < (moving all).length := by exact_mod_cast occupied
  have bounded := le_sum_moving member positive
  have whole : movingMean all * (moving all).length = (moving all).sum :=
    div_mul_cancel₀ _ count.ne'
  have mean : 0 < movingMean all := div_pos (positive.trans_le bounded) count
  have scaled : movingMean all * threshold < movingMean all * (moving all).length := by
    rw [whole]
    exact above.trans_le bounded
  exact lt_of_mul_lt_mul_left scaled mean.le

end Anomaly

/-! ### What a gate reports -/

def Event.isSpike {α : Type} : Event α → Bool
  | .anomalyFound _ (.velocitySpike _ _ _) => true
  | _ => false

theorem Event.isSpike_iff {α : Type} {event : Event α} : event.isSpike = true ↔
    ∃ tier messageType velocity mean,
      event = .anomalyFound tier (.velocitySpike messageType velocity mean) := by
  constructor
  · intro spike
    unfold isSpike at spike
    split at spike
    · exact ⟨_, _, _, _, rfl⟩
    · cases spike
  · rintro ⟨_, _, _, _, rfl⟩
    rfl

section Reported

variable {α : Type} [Scalar α] {e : Engine α} {now : Nat} {m : Message} {tier : Tier}
  {anomaly : Anomaly α}

namespace Anomaly

variable {messageType other : String} {velocity told mean threshold : α} {all : List α}

/-- Flooding is told of in its own way. -/
theorem flooding?_ne_spike {record : Peer α} :
    flooding? record ≠ some (.velocitySpike messageType velocity mean) := by
  intro found
  unfold flooding? at found
  split at found
  · split at found <;> simp at found
  · cases found

/-- A spike tells the type and the velocity that were looked at. -/
theorem spike?_tells (found : spike? messageType velocity all threshold =
    some (.velocitySpike other told mean)) : other = messageType ∧ velocity = told := by
  unfold spike? at found
  split at found
  · cases found
  · split at found
    · split at found
      · cases found
        exact ⟨rfl, rfl⟩
      · cases found
    · cases found

end Anomaly

namespace Engine

theorem arrive_unsuspected {a : Arrival α} (arrived : e.arrive now m = .ok a)
    (admission : Admission α) :
    .anomalyFound tier anomaly ∉ a.events ++ a.engine.evictions admission := by
  obtain ⟨velocity, events⟩ := (arrive_follows arrived).measured
  rw [events]
  simp [evictions]

theorem judgeCaller_unsuspected (a : Arrival α) (duplicate : Bool) :
    .anomalyFound tier anomaly ∉ (e.judgeCaller a m duplicate).2 := by
  unfold judgeCaller judge
  split
  · split
    · simp
    · dsimp only
      split <;> simp
  · simp

theorem adjustIfDue_unsuspected {result : Engine α × List (Event α)}
    (done : e.adjustIfDue now = .ok result) : .anomalyFound tier anomaly ∉ result.2 := by
  rcases adjustIfDue_cases done with ⟨_, rfl⟩ | ⟨_, adjusted⟩
  · simp
  rcases adjustTtl_reports adjusted with ⟨rfl, _⟩ | ⟨change, learned, _, _, told⟩
  · simp
  · rw [told]
    simp [reports]

/-- Only a message that passes is looked at, after everything else that it does. -/
theorem Receives.suspects {reply : Reply α Bool} (receives : e.Receives now m reply)
    (told : .anomalyFound tier anomaly ∈ reply.events) : anomaly ∈ reply.engine.anomalies m := by
  cases receives with
  | nameless => cases told
  | @blocked arrival _ _ arrived =>
    have quiet : .anomalyFound tier anomaly ∉ arrival.events ++ _ :=
      arrive_unsuspected arrived ⟨e.store, .dropped, []⟩
    simp only [block, List.mem_append, List.mem_singleton, reduceCtorEq, or_false] at told
    exact absurd (List.mem_append_left _ told) quiet
  | @suppressed arrival _ _ arrived _ =>
    rcases List.mem_append.1 told with before | after
    · exact absurd before (arrive_unsuspected arrived _)
    · simp only [suppress, List.mem_append, List.mem_singleton, reduceCtorEq, or_false] at after
      exact absurd after (judgeCaller_unsuspected _ _)
  | @passed arrival reply _ _ arrived _ passed =>
    rcases List.mem_append.1 told with before | after
    · exact absurd before (arrive_unsuspected arrived _)
    obtain ⟨result, adjusted, last⟩ := bind_eq_ok passed
    cases last
    simp only [List.mem_append, List.mem_map] at after
    rcases after with ((judged | untracked) | adjusts) | ⟨_, found, same⟩
    · split at judged
      · exact absurd judged (judgeCaller_unsuspected _ _)
      · cases judged
    · split at untracked <;> simp at untracked
    · exact absurd adjusts (adjustIfDue_unsuspected adjusted)
    · cases same
      exact found

theorem upkeep_unsuspected {call : Call} (other : ∀ m, call ≠ .message m) {reply : Reply α Answer}
    (performed : e.perform now call = .ok reply) :
    .anomalyFound tier anomaly ∉ reply.events := by
  cases call with
  | message m => exact absurd rfl (other m)
  | activity peer =>
    obtain rfl := Except.ok.inj performed
    simp
  | cleanup =>
    obtain rfl := Except.ok.inj performed
    simp only [Reply.map, cleanup]
    split <;> simp
  | setTier requested =>
    obtain rfl := Except.ok.inj performed
    rw [setTier_eq]
    simp only [Reply.map, retiered, Event.ofTierRequest]
    split <;> simp
  | close =>
    obtain rfl := Except.ok.inj performed
    simp only [Reply.map, close]
    split <;> simp

/-- A spike among the anomalies around a message is one of the type of the message. -/
theorem spike_of_suspected {messageType : String} {velocity mean : α}
    (suspected : .velocitySpike messageType velocity mean ∈ e.anomalies m) :
    ∃ t, e.traffic.get? messageType = some t ∧ t.velocity = velocity ∧
      Anomaly.spike? messageType velocity (e.traffic.values.map Traffic.velocity)
        e.tuning.anomalyThreshold = some (.velocitySpike messageType velocity mean) := by
  unfold anomalies at suspected
  split at suspected
  · rcases List.mem_append.1 suspected with flooding | spike
    · rw [Option.mem_toList] at flooding
      split at flooding
      · cases flooding
      · obtain ⟨record, _, found⟩ := Option.bind_eq_some_iff.1 flooding
        exact absurd found Anomaly.flooding?_ne_spike
    · obtain ⟨t, stored, found⟩ := Option.bind_eq_some_iff.1 (Option.mem_toList.1 spike)
      obtain ⟨rfl, rfl⟩ := Anomaly.spike?_tells found
      exact ⟨t, stored, rfl, found⟩
  · cases suspected

/-- A spike that a call reports is one among the velocities that the call leaves. -/
theorem perform_spike {call : Call} {reply : Reply α Answer}
    (performed : e.perform now call = .ok reply) {messageType : String} {velocity mean : α}
    (told : .anomalyFound tier (.velocitySpike messageType velocity mean) ∈ reply.events) :
    ∃ t, reply.engine.traffic.get? messageType = some t ∧ t.velocity = velocity ∧
      Anomaly.spike? messageType velocity (reply.engine.traffic.values.map Traffic.velocity)
        reply.engine.tuning.anomalyThreshold =
          some (.velocitySpike messageType velocity mean) := by
  by_cases brought : ∃ m, call = .message m
  · obtain ⟨m, rfl⟩ := brought
    obtain ⟨answer, answered, rfl⟩ := perform_message performed
    exact spike_of_suspected ((receive_receives answered).suspects told)
  · exact absurd told (upkeep_unsuspected (fun m same => brought ⟨m, same⟩) performed)

end Engine

theorem Run.anomalyThreshold_eq {c : Config α} {opened : Nat} {past : List (Step α)}
    (run : Run c opened past e) : e.tuning.anomalyThreshold = c.anomalyThreshold := by
  refine run.keeps_always (fun e => e.tuning.anomalyThreshold = c.anomalyThreshold) ?_ ?_
    (fun _ _ same => same) ?_
  · intro reply started
    obtain ⟨ordered, rfl⟩ := Engine.start_assemble started
    rfl
  · rintro e _ ⟨store, _, rfl⟩ same
    exact same
  · intro now e last moves same
    rw [moves.tuning]
    exact same

end Reported

/-! ### Runs -/

/-- The types that have a velocity in a gate. -/
def Engine.movingTypes (e : Engine Rat) : List String :=
  (e.traffic.entries.filter fun pair => 0 < pair.2.velocity).map Prod.fst

/-- The types that had a velocity after any of some calls. -/
def movedTypes (past : List (Step Rat)) : List String :=
  (past.flatMap fun step => step.reply.engine.movingTypes).dedup

theorem Engine.length_movingTypes (e : Engine Rat) : e.movingTypes.length =
    (Anomaly.moving (e.traffic.values.map Traffic.velocity)).length := by
  unfold movingTypes Anomaly.moving Table.values
  rw [List.map_map, List.filter_map, List.length_map, List.length_map]
  rfl

theorem length_movingTypes_le {past : List (Step Rat)} {step : Step Rat} (member : step ∈ past) :
    step.reply.engine.movingTypes.length ≤ (movedTypes past).length := by
  have distinct : step.reply.engine.movingTypes.Nodup :=
    step.reply.engine.traffic.nodup.sublist (List.filter_sublist.map _)
  refine (distinct.subperm fun messageType moves => ?_).length_le
  exact List.mem_dedup.2 (List.mem_flatMap.2 ⟨step, member, moves⟩)

variable {exp : Rat → Rat} {c : Config Rat} {opened : Nat} {past : List (Step Rat)}
  {e : Engine Rat}

/-- A spike that was ever reported took more types with a velocity than the threshold, and tells the
mean of their velocities. -/
theorem Run.spike_needs (run : @Run Rat (exactScalar exp) c opened past e) :
    ∀ step ∈ past, ∀ tier messageType velocity mean,
      .anomalyFound tier (.velocitySpike messageType velocity mean) ∈ step.reply.events →
        c.anomalyThreshold < step.reply.engine.movingTypes.length ∧
          mean = Anomaly.movingMean
            (step.reply.engine.traffic.values.map Traffic.velocity) := by
  let _ := exactScalar exp
  refine run.forall_steps fun earlier before step ran reordered performed => ?_
  intro tier messageType velocity mean told
  obtain ⟨t, stored, rfl, spike⟩ := Engine.perform_spike performed told
  rw [(ran.call reordered performed).anomalyThreshold_eq] at spike
  obtain ⟨positive, _, above, found⟩ := Anomaly.spike?_eq_some_iff.1 spike
  have member : t.velocity ∈ step.reply.engine.traffic.values.map Traffic.velocity :=
    List.mem_map_of_mem (List.mem_map_of_mem (Table.mem_entries_iff.2 stored))
  rw [Engine.length_movingTypes]
  refine ⟨Anomaly.threshold_lt_moving member positive above, ?_⟩
  injection found

/-- A velocity spike takes more types with a velocity than the threshold: the fastest of them is at
most as many times the mean as there are types. The mean is that of all velocities above zero, in
whatever order they come. So no gate with the default threshold reports a spike while three types
at most ever had a velocity. -/
theorem velocity_spike_needs_types (exp : Rat → Rat) :
    (∀ messageType velocity all threshold found, velocity ∈ all →
      @Anomaly.spike? Rat (exactScalar exp) messageType velocity all threshold = some found →
        threshold < (all.filter fun v => 0 < v).length ∧
          found = .velocitySpike messageType velocity
            ((all.filter fun v => 0 < v).sum / (all.filter fun v => 0 < v).length)) ∧
      (∀ messageType velocity (all reordered : List Rat) threshold, all.Perm reordered →
        @Anomaly.spike? Rat (exactScalar exp) messageType velocity all threshold =
          @Anomaly.spike? Rat (exactScalar exp) messageType velocity reordered threshold) ∧
      ∀ c opened past e, @Run Rat (exactScalar exp) c opened past e →
        c.anomalyThreshold = (@Config.default Rat (exactScalar exp)).anomalyThreshold →
        (movedTypes past).length ≤ 3 →
          ∀ step ∈ past, ∀ event ∈ step.reply.events, event.isSpike = false := by
  refine ⟨?_, ?_, ?_⟩
  · intro messageType velocity all threshold found member spike
    obtain ⟨positive, _, above, same⟩ := Anomaly.spike?_eq_some_iff.1 spike
    exact ⟨Anomaly.threshold_lt_moving member positive above, same⟩
  · intro messageType velocity all reordered threshold perm
    refine Option.ext fun found => ?_
    have none : Anomaly.moving all = [] ↔ Anomaly.moving reordered = [] := by
      rw [← List.length_eq_zero_iff, (Anomaly.moving_perm perm).length_eq,
        List.length_eq_zero_iff]
    rw [Anomaly.spike?_eq_some_iff, Anomaly.spike?_eq_some_iff, Anomaly.movingMean_perm perm, ne_eq,
      ne_eq, none]
  · intro c opened past e run default few step member event told
    rw [← Bool.not_eq_true]
    intro spike
    obtain ⟨tier, messageType, velocity, mean, rfl⟩ := Event.isSpike_iff.1 spike
    have more := (run.spike_needs step member tier messageType velocity mean told).1
    have three : c.anomalyThreshold = 3 := by
      rw [default]
      show (3.0 : Rat) = 3
      norm_num
    rw [three] at more
    have many : 3 < step.reply.engine.movingTypes.length := by exact_mod_cast more
    exact absurd ((length_movingTypes_le member).trans few) (Nat.not_le.2 many)

/-- Messages of some types a second apart, then two of another type within a millisecond. -/
def overtakingCalls (slow : List String) : List (Nat × Call) :=
  slow.map (fun messageType => (0, .message ⟨"a", messageType, "", .empty⟩)) ++
    slow.map (fun messageType => (1000, .message ⟨"b", messageType, "", .empty⟩)) ++
    [(2000, .message ⟨"c", "fast", "", .empty⟩), (2001, .message ⟨"d", "fast", "", .empty⟩)]

/-- Of four velocities one is more than three times the mean. Of three types none is, although one
is a thousand times as fast as the others; with a fourth type it is told of. -/
theorem velocity_spike_needs_types_overtaking :
    (∃ found, @Anomaly.spike? Rat decayingScalar "tx" 30 [1, 1, 1, 30] 3 = some found ∧
      found = .velocitySpike "tx" 30 (33 / 4) ∧ (3 : Rat) < 4 ∧
      @Anomaly.spike? Rat decayingScalar "tx" 30 [30, 1, 1, 1] 3 = some found) ∧
    (∃ (past : List (Step Rat)) (e : Engine Rat),
      @Run Rat decayingScalar (@Config.ofTier Rat decayingScalar .enterprise) 0 past e ∧
        (movedTypes past).length = 3 ∧ past.length = 6 ∧
        ∀ step ∈ past, ∀ event ∈ step.reply.events, event.isSpike = false) ∧
    ∃ (past : List (Step Rat)) (e : Engine Rat),
      @Run Rat decayingScalar (@Config.ofTier Rat decayingScalar .enterprise) 0 past e ∧
        (movedTypes past).length = 4 ∧ past.length = 8 ∧
        past.countP (fun step => step.reply.events.any Event.isSpike) = 1 := by
  let _ := decayingScalar
  have needs := velocity_spike_needs_types fun q => 1 / (1 - q)
  have usable : (Config.ofTier .enterprise : Config Rat).problem? = none := by decide +kernel
  refine ⟨?_, ?_, ?_⟩
  · have spike : Anomaly.spike? "tx" (30 : Rat) [1, 1, 1, 30] 3 =
        some (.velocitySpike "tx" 30 (33 / 4)) := by
      refine Anomaly.spike?_eq_some_iff.2 ⟨by norm_num, ?_, ?_, ?_⟩
      · decide +kernel
      · decide +kernel
      · have mean : Anomaly.movingMean [1, 1, 1, 30] = 33 / 4 := by decide +kernel
        rw [mean]
    have counts := (needs.1 "tx" 30 [1, 1, 1, 30] 3 _ (by simp) spike).1
    have reordered := needs.2.1 "tx" 30 [1, 1, 1, 30] [30, 1, 1, 1] 3 (by decide)
    refine ⟨_, spike, rfl, ?_, reordered ▸ spike⟩
    have four : ([1, 1, 1, 30].filter fun v : Rat => 0 < v).length = 4 := by decide +kernel
    rw [four] at counts
    exact_mod_cast counts
  · have traced : ((Engine.assemble (Config.ofTier .enterprise : Config Rat)
        (Config.minTtl_le_maxTtl_ofTier .enterprise) 0).engine.trace
          (overtakingCalls ["u", "v"])).toOption.any
            (fun past => decide ((movedTypes past).length = 3 ∧ past.length = 6)) = true := by
      decide +kernel
    obtain ⟨past, e, run, _, facts⟩ := Run.of_trace usable traced
    obtain ⟨few, length⟩ := of_decide_eq_true facts
    exact ⟨past, e, run, few, length, needs.2.2 _ 0 past e run rfl few.le⟩
  · have traced : ((Engine.assemble (Config.ofTier .enterprise : Config Rat)
        (Config.minTtl_le_maxTtl_ofTier .enterprise) 0).engine.trace
          (overtakingCalls ["u", "v", "w"])).toOption.any
            (fun past => decide ((movedTypes past).length = 4 ∧ past.length = 8 ∧
              past.countP (fun step => step.reply.events.any Event.isSpike) = 1)) = true := by
      decide +kernel
    obtain ⟨past, e, run, _, facts⟩ := Run.of_trace usable traced
    exact ⟨past, e, run, of_decide_eq_true facts⟩

end GossipGate
