import GossipGate.Engine.Audit
import GossipGate.Proofs.Adjustment

namespace GossipGate

variable {α : Type} [Scalar α] {e : Engine α} {now : Nat} {m : Message}

namespace Engine

/-- The tuning stays as it is while a gate is open. -/
theorem Moves.tuning {last : Engine α} (moves : e.Moves now last) : last.tuning = e.tuning := by
  cases moves with
  | met _ peer => rw [meet_fst]
  | judged _ peer duplicate => rw [judge_fst]
  | adjusted done =>
    obtain ⟨_, _, _, _, same⟩ := adjustTtl_fst done
    rw [same]
  | noted | measured | repeated | tracked | retiered => rfl

/-- The global TTL and those of all types lie between the bounds of the tuning. -/
structure TtlsInside (e : Engine α) : Prop where
  whole : e.tuning.window.min.nanos % 1000000 = 0
  short : e.tuning.window.max.millis < UInt64.size
  global : e.tuning.window.contains e.globalTtl = true
  types : ∀ messageType t, e.traffic.get? messageType = some t →
    e.tuning.window.contains t.ttl = true

theorem TtlsInside.trafficRecord (inside : e.TtlsInside) (messageType : String) :
    e.tuning.window.contains (e.trafficRecord messageType).ttl = true := by
  unfold Engine.trafficRecord
  cases stored : e.traffic.get? messageType with
  | none => exact inside.global
  | some t => exact inside.types messageType t stored

/-- Whatever decides the TTL of a message, it lies between the bounds. -/
theorem TtlsInside.ttlOf (inside : e.TtlsInside) (m : Message) :
    e.tuning.window.contains (e.ttlOf m) = true := by
  have own := inside.trafficRecord m.messageType
  unfold Engine.ttlOf ttlFor
  split
  · exact own
  · split
    · exact e.tuning.window.contains_nearest _
    · exact own

theorem TtlsInside.measured (inside : e.TtlsInside) {blocked : Bool}
    {measured : Traffic α × Option α} (done : e.measure now m blocked = .ok measured) :
    ({ e with traffic := e.traffic.insert m.messageType measured.1 } : Engine α).TtlsInside := by
  refine ⟨inside.whole, inside.short, inside.global, ?_⟩
  intro messageType t stored
  rw [Table.get?_insert] at stored
  split at stored
  · cases stored
    rw [(measure_ttl done).1]
    exact inside.trafficRecord m.messageType
  · exact inside.types messageType t stored

theorem TtlsInside.repeated (inside : e.TtlsInside) (messageType : String) :
    ({ e with traffic := e.traffic.modify messageType Traffic.countDuplicate } :
      Engine α).TtlsInside := by
  refine ⟨inside.whole, inside.short, inside.global, ?_⟩
  intro other t stored
  rw [Table.get?_modify] at stored
  split at stored
  · obtain ⟨old, found, rfl⟩ := Option.map_eq_some_iff.1 stored
    exact inside.types other old found
  · exact inside.types other t stored

theorem TtlsInside.adjusts (inside : e.TtlsInside) {change : TtlChange}
    {learned : List (String × Traffic α)} {last : Engine α}
    (adjusts : e.Adjusts change learned last) : last.TtlsInside := by
  have changed := adjusts.contains
  rw [adjusts.last_eq]
  refine ⟨inside.whole, inside.short, ?_, ?_⟩
  · exact TtlBounds.contains_ofMillis_millisWord inside.whole inside.short changed
  · intro messageType t stored
    rw [Table.get?_mapValues] at stored
    obtain ⟨old, found, rfl⟩ := Option.map_eq_some_iff.1 stored
    obtain ⟨ttl, adapted, follows, own | global | learns⟩ := learn_follow adjusts.learns found
    · rw [follows, own]
      exact inside.types messageType old found
    · rw [follows, global]
      exact changed
    · rw [follows]
      exact Traffic.contains_learnedTtl e.tuning.window.min_le_max learns

omit [Scalar α] in
/-- A change of another part of the gate. -/
theorem TtlsInside.congr {gate : Engine α} (inside : e.TtlsInside) (tuning : gate.tuning = e.tuning)
    (global : gate.globalTtl = e.globalTtl) (traffic : gate.traffic = e.traffic) :
    gate.TtlsInside := by
  obtain ⟨whole, short, globalInside, types⟩ := inside
  refine ⟨?_, ?_, ?_, ?_⟩
  · rw [tuning]
    exact whole
  · rw [tuning]
    exact short
  · rw [tuning, global]
    exact globalInside
  · rw [tuning, traffic]
    exact types

theorem TtlsInside.moves (inside : e.TtlsInside) {last : Engine α} (moves : e.Moves now last) :
    last.TtlsInside := by
  cases moves with
  | noted | tracked | retiered => exact inside.congr rfl rfl rfl
  | met _ peer =>
    rw [meet_fst]
    exact inside.congr rfl rfl rfl
  | judged _ peer duplicate =>
    rw [judge_fst]
    exact inside.congr rfl rfl rfl
  | measured _ done => exact inside.measured done
  | repeated _ messageType => exact inside.repeated messageType
  | adjusted done =>
    rcases adjustTtl_adjusts done with same | ⟨change, learned, adjusts⟩
    · rw [same]
      exact inside
    · exact inside.adjusts adjusts

theorem start_tuning {c : Config α} {opened : Nat} {reply : Reply α Unit}
    (started : Engine.start c opened = .ok reply) :
    reply.engine.tuning.window.toTtlBounds = c.bounds ∧
      reply.engine.tuning.learningRate = c.learningRate ∧
      reply.engine.tuning.reputationDecay = c.reputationDecay := by
  obtain ⟨ordered, rfl⟩ := start_assemble started
  exact ⟨rfl, rfl, rfl⟩

theorem start_ttlsInside {c : Config α} {opened : Nat} {reply : Reply α Unit}
    (started : Engine.start c opened = .ok reply) (whole : c.minTtl.nanos % 1000000 = 0)
    (short : c.maxTtl.millis < UInt64.size) : reply.engine.TtlsInside := by
  obtain ⟨ordered, rfl⟩ := start_assemble started
  refine ⟨whole, short, ?_, ?_⟩
  · exact TtlBounds.contains_ofMillis_millisWord whole short (TtlWindow.contains_nearest _ _)
  · intro messageType t stored
    cases stored

theorem TtlsInside.violation? (inside : e.TtlsInside) : e.violation? ≠ some .ttlOutOfBounds := by
  have types : e.traffic.values.all (fun t => e.tuning.window.contains t.ttl) = true := by
    rw [List.all_eq_true]
    intro t member
    obtain ⟨⟨messageType, _⟩, stored, rfl⟩ := List.mem_map.1 member
    exact inside.types messageType _ (Table.mem_entries_iff.1 stored)
  unfold Engine.violation?
  simp only [inside.global, types, Bool.not_true, Bool.or_self, Bool.false_eq_true, if_false]
  repeat' split
  all_goals simp

end Engine

variable {c : Config α} {opened : Nat} {past : List (Step α)}

/-- The tuning of a gate is that of its settings. -/
theorem Run.tuning (run : Run c opened past e) : e.tuning.window.toTtlBounds = c.bounds ∧
    e.tuning.learningRate = c.learningRate ∧ e.tuning.reputationDecay = c.reputationDecay := by
  refine run.keeps_always (fun e => e.tuning.window.toTtlBounds = c.bounds ∧
    e.tuning.learningRate = c.learningRate ∧ e.tuning.reputationDecay = c.reputationDecay)
    (fun _ started => Engine.start_tuning started) ?_ (fun _ _ same => same) ?_
  · rintro e _ ⟨store, _, rfl⟩ same
    exact same
  · intro now e last moves same
    rw [moves.tuning]
    exact same

theorem Run.ttlsInside (run : Run c opened past e) (whole : c.minTtl.nanos % 1000000 = 0)
    (short : c.maxTtl.millis < UInt64.size) : e.TtlsInside := by
  refine run.keeps_always Engine.TtlsInside
    (fun _ started => Engine.start_ttlsInside started whole short) ?_ ?_ ?_
  · rintro e _ ⟨store, _, rfl⟩ inside
    exact inside.congr rfl rfl rfl
  · intro now e inside
    exact inside.congr rfl rfl rfl
  · intro now e last moves inside
    exact inside.moves moves

/-- All TTLs lie between the bounds of the settings: the global one, those of the types and the one
that decides on a message. -/
theorem Run.ttl_bounds (run : Run c opened past e) (whole : c.minTtl.nanos % 1000000 = 0)
    (short : c.maxTtl.millis < UInt64.size) {gate : Engine α} (reordered : e.Reordered gate) :
    c.bounds.contains gate.globalTtl = true ∧
      (∀ messageType t, gate.traffic.get? messageType = some t →
        c.bounds.contains t.ttl = true) ∧
      (∀ now m a, gate.arrive now m = .ok a →
        c.bounds.contains (a.engine.sighting a m).ttl = true) ∧
      gate.violation? ≠ some .ttlOutOfBounds := by
  have bounds := run.tuning.1
  have inside := run.ttlsInside whole short
  obtain ⟨store, _, rfl⟩ := reordered
  have again : (e.withStore store).TtlsInside := inside.congr rfl rfl rfl
  rw [← bounds]
  refine ⟨again.global, again.types, ?_, again.violation?⟩
  intro now m a arrived
  rw [(Engine.arrive_follows arrived).ttl]
  exact again.ttlOf m

/-- Default settings with a network whose priority messages ask for a TTL of one millisecond. -/
def hastyConfig : Config Float :=
  { Config.default with networks := [⟨"n", .ofMillis 1, 1, ["t"], []⟩] }

def hastyMessage : Message := ⟨"a", "t", "", { Metadata.empty with source := some "n" }⟩

/-- The network's TTL is below the bounds, and the one that decides on the second message is not. -/
theorem ttl_bounds_hasty : ∃ (past : List (Step Float)) (e : Engine Float) (a : Arrival Float),
    Run hastyConfig 0 past e ∧ past.length = 1 ∧ hastyConfig.minTtl.nanos % 1000000 = 0 ∧
      hastyConfig.maxTtl.millis < UInt64.size ∧ e.arrive 1 hastyMessage = .ok a ∧
      hastyConfig.bounds.contains (a.engine.sighting a hastyMessage).ttl = true ∧
      e.violation? ≠ some .ttlOutOfBounds := by
  have usable : hastyConfig.problem? = none := by decide +kernel
  have reaches : (Engine.assemble hastyConfig (by decide) 0).engine.reaches
      [(0, .message hastyMessage)] (fun e => (e.arrive 1 hastyMessage).isOk) = true := by
    decide +kernel
  obtain ⟨past, e, run, length, _, arrives⟩ := Run.of_reaches usable reaches
  have whole : hastyConfig.minTtl.nanos % 1000000 = 0 := by decide
  have short : hastyConfig.maxTtl.millis < UInt64.size := by decide
  obtain ⟨_, _, inside, sound⟩ := run.ttl_bounds whole short (Engine.Reordered.refl e)
  cases arrived : e.arrive 1 hastyMessage with
  | error => simp only [arrived, Except.isOk, Except.toBool, Bool.false_eq_true] at arrives
  | ok a =>
    exact ⟨past, e, a, run, length, whole, short, arrived, inside 1 hastyMessage a arrived, sound⟩

end GossipGate
