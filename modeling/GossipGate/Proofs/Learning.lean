import GossipGate.Proofs.GlobalTtl
import GossipGate.Proofs.MessageEffects

namespace GossipGate

variable {α : Type} [Scalar α] {e : Engine α} {now : Nat} {m : Message}

/-- Whether a call adjusted the TTL under adaptive learning, after more than 20 messages of a
type. -/
def Step.teaches (step : Step α) (messageType : String) : Bool :=
  !(adjustments step.reply.events).isEmpty && step.before.profile.adaptiveLearning &&
    (step.reply.engine.traffic.get? messageType).any fun t => 20 < t.seen

omit [Scalar α] in
theorem Step.teaches_of_unadjusted (step : Step α) (unadjusted : adjustments step.reply.events = [])
    (messageType : String) : step.teaches messageType = false := by
  simp [teaches, unadjusted]

namespace Engine

/-- What becomes of the TTLs of the types while some of them are taught one: just these have one of
their own from then on, those that had one keep it unless they are taught again, and a new type has
none. -/
structure Learns (e last : Engine α) (taught : String → Bool) : Prop where
  known : ∀ messageType t, e.traffic.get? messageType = some t →
    ∃ after, last.traffic.get? messageType = some after ∧
      (after.adapted = true ↔ t.adapted = true ∨ taught messageType = true) ∧
      (t.adapted = true → taught messageType = false → after.ttl = t.ttl)
  fresh : ∀ messageType after, e.traffic.get? messageType = none →
    last.traffic.get? messageType = some after →
      after.adapted = false ∧ taught messageType = false

omit [Scalar α] in
theorem Learns.of_traffic_eq {last : Engine α} (same : last.traffic = e.traffic)
    {taught : String → Bool} (untaught : ∀ messageType, taught messageType = false) :
    e.Learns last taught := by
  refine ⟨fun messageType t stored => ⟨t, same ▸ stored, by simp [untaught], fun _ _ => rfl⟩,
    fun messageType after absent stored => ?_⟩
  rw [same, absent] at stored
  cases stored

theorem Hears.learns {repeated : Nat} {heard : Engine α} (hears : e.Hears m repeated heard)
    {taught : String → Bool} (untaught : ∀ messageType, taught messageType = false) :
    e.Learns heard taught := by
  refine ⟨fun messageType t stored => ?_, fun messageType after absent stored =>
    ⟨(hears.fresh absent stored).2, untaught messageType⟩⟩
  obtain ⟨after, found, ttl, adapted⟩ := hears.known stored
  exact ⟨after, found, by simp [adapted, untaught], fun _ _ => ttl⟩

/-- An adjustment teaches the types of which there were more than 20 messages. -/
theorem Adjusts.learns_after {repeated : Nat} {heard last : Engine α} {change : TtlChange}
    {learned : List (String × Traffic α)} (adjusts : heard.Adjusts change learned last)
    (hears : e.Hears m repeated heard) :
    e.Learns last fun messageType => e.profile.adaptiveLearning &&
      (last.traffic.get? messageType).any fun t => 20 < t.seen := by
  constructor
  · intro messageType t stored
    obtain ⟨middle, found, ttl, adapted⟩ := hears.known stored
    obtain ⟨after, last_eq, adapts⟩ := adjusts.adapts found
    rw [hears.profile] at adapts
    refine ⟨after, last_eq, ?_⟩
    rw [last_eq, ← ttl, ← adapted]
    cases adapts with
    | taught own adaptive many => simp [adaptive, many]
    | keeps untaught own => simp [own]
    | follows untaught none =>
      rw [none]
      simpa using untaught
  · intro messageType after absent stored
    obtain ⟨t, found, adapts⟩ := adjusts.origin stored
    obtain ⟨seen, unadapted⟩ := hears.fresh absent found
    rw [stored]
    cases adapts with
    | taught own adaptive many => omega
    | keeps _ own =>
      rw [unadapted] at own
      cases own
    | follows untaught none => simp [seen, none]

theorem perform_learns {call : Call} {reply : Reply α Answer}
    (performed : e.perform now call = .ok reply) :
    e.Learns reply.engine (Step.teaches ⟨e, now, call, reply⟩) := by
  rcases perform_concludes performed with ⟨m, answer, rfl, rfl, concludes⟩ | upkeeps
  · have idle : adjustments answer.events = [] → ∀ messageType,
        Step.teaches ⟨e, now, .message m, answer.map .verdict⟩ messageType = false :=
      Step.teaches_of_unadjusted ⟨e, now, .message m, answer.map .verdict⟩
    cases concludes with
    | nameless _ same =>
      subst same
      exact .of_traffic_eq rfl (idle rfl)
    | suppressed _ _ hears _ _ unadjusted | early _ _ _ hears _ _ unadjusted
    | sparse _ _ _ _ hears _ _ unadjusted => exact hears.learns (idle unadjusted)
    | adjusted _ _ _ _ hears _ _ adjusts told =>
      -- An adjustment keeps the counts of the types, so the reply tells how many there were.
      have learns := adjusts.learns_after hears
      have teaches : Step.teaches ⟨e, now, .message m, answer.map .verdict⟩ = fun messageType =>
          e.profile.adaptiveLearning && (answer.engine.traffic.get? messageType).any
            fun t => 20 < t.seen := by
        funext messageType
        simp [Step.teaches, Reply.map, told]
      rw [teaches]
      exact learns
  · exact .of_traffic_eq upkeeps.traffic (Step.teaches_of_unadjusted _ upkeeps.unadjusted)

omit [Scalar α] in
/-- A type without a TTL of its own lets entries expire when the global TTL does. -/
theorem TtlsFollow.isLive_eq (follows : e.TtlsFollow) {messageType : String} {t : Traffic α}
    (stored : e.traffic.get? messageType = some t) (unadapted : t.adapted = false)
    (entry : Entry α) (now : Nat) : entry.isLive now t.ttl = entry.isLive now e.globalTtl := by
  have own := follows.types messageType t stored unadapted
  have global : e.globalTtl.millisWord = e.ttlMillis := Duration.millisWord_ofMillis follows.word
  unfold Entry.isLive
  rw [own, global]

end Engine

variable {c : Config α} {opened : Nat} {past : List (Step α)}

/-- A type has a TTL of its own just where some call taught it one. -/
theorem Run.adapted_iff (run : Run c opened past e) (messageType : String) :
    (∃ t, e.traffic.get? messageType = some t ∧ t.adapted = true) ↔
      ∃ step ∈ past, step.teaches messageType = true := by
  induction run with
  | start started =>
    obtain ⟨ordered, rfl⟩ := Engine.start_assemble started
    constructor
    · rintro ⟨t, stored, _⟩
      cases stored
    · simp
  | @call past e gate now call reply _ reordered performed ih =>
    have learns := Engine.perform_learns performed
    obtain ⟨store, _, rfl⟩ := reordered
    rw [List.exists_mem_cons_iff, ← ih]
    cases stored : e.traffic.get? messageType with
    | none =>
      -- A type that this call brought in: neither side holds.
      constructor
      · rintro ⟨after, found, adapted⟩
        rw [(learns.fresh messageType after stored found).1] at adapted
        cases adapted
      · rintro (teaches | ⟨t, found, _⟩)
        · cases found : reply.engine.traffic.get? messageType with
          | none => simp [Step.teaches, found] at teaches
          | some after =>
            rw [(learns.fresh messageType after stored found).2] at teaches
            cases teaches
        · cases found
    | some t =>
      obtain ⟨after, found, adapted_iff, _⟩ := learns.known messageType t stored
      rw [found]
      simp only [Option.some.injEq, exists_eq_left', adapted_iff]
      exact or_comm

/-- Types without a TTL of their own follow the global one, to the millisecond, so that entries
expire alike by either. A type gets a TTL of its own, and another one later, only from an adjustment
under adaptive learning after more than 20 messages of it, and never loses it. -/
theorem Run.own_ttls (run : Run c opened past e) {gate : Engine α} (reordered : e.Reordered gate) :
    (∀ messageType t, gate.traffic.get? messageType = some t → t.adapted = false →
      t.ttl.millisWord = gate.ttlMillis ∧
        ∀ (entry : Entry α) now, entry.isLive now t.ttl = entry.isLive now gate.globalTtl) ∧
    (∀ now call reply, gate.perform now call = .ok reply →
      gate.Learns reply.engine (Step.teaches ⟨gate, now, call, reply⟩)) ∧
    ∀ messageType, (∃ t, gate.traffic.get? messageType = some t ∧ t.adapted = true) ↔
      ∃ step ∈ past, step.teaches messageType = true := by
  obtain ⟨store, _, rfl⟩ := reordered
  have follows : (e.withStore store).TtlsFollow := run.ttlsFollow.congr rfl rfl
  exact ⟨fun messageType t stored unadapted =>
      ⟨follows.types messageType t stored unadapted, follows.isLive_eq stored unadapted⟩,
    fun _ _ _ performed => Engine.perform_learns performed, run.adapted_iff⟩

/-- Settings of the ENTERPRISE tier with a single shard. -/
def demotedConfig : Config Float := { Config.ofTier .enterprise with shards := some 1 }

/-- Adaptive learning sees 99 messages of one type and one of another and adjusts the TTL. Then the
tier changes to FREE, and the first type floods the gate again. -/
def demotedCalls : List (Nat × Call) :=
  List.replicate 99 (0, .message ⟨"a", "t", "", .empty⟩) ++
    [(60000, .message ⟨"b", "u", "", .empty⟩), (60000, .setTier "FREE")] ++
      List.replicate 49 (60000, .message ⟨"a", "t", "", .empty⟩)

def lateMessage : Message := ⟨"c", "u", "", .empty⟩

/-- Whether a call adjusted the TTL to another one than that of a type, which has its own. -/
def Reply.leaves (reply : Reply Float Answer) (messageType : String) : Bool :=
  (adjustments reply.events).any fun told =>
    (reply.engine.traffic.get? messageType).any fun t => t.adapted && t.ttl ≠ told.2.ttl

/-- A minute later the next message has the TTL adjusted again, which the type that was taught does
not follow. -/
theorem demotedConfig_run : ∃ (past : List (Step Float)) (e : Engine Float)
    (reply : Reply Float Answer) (rate : Float) (change : TtlChange) (t u : Traffic Float),
    Run demotedConfig 0 past e ∧ e.profile.adaptiveLearning = false ∧
      e.perform 120000 (.message lateMessage) = .ok reply ∧
      (rate, change) ∈ adjustments reply.events ∧
      reply.engine.traffic.get? "t" = some t ∧ t.adapted = true ∧ t.ttl ≠ change.ttl ∧
      reply.engine.traffic.get? "u" = some u ∧ u.adapted = false := by
  have usable : demotedConfig.problem? = none := by decide +kernel
  have reaches : (Engine.assemble demotedConfig (by decide) 0).engine.reaches demotedCalls
      (fun e => !e.profile.adaptiveLearning &&
        (e.perform 120000 (.message lateMessage)).toOption.any fun reply => reply.leaves "t" &&
          (reply.engine.traffic.get? "u").any fun u => !u.adapted) = true := by
    decide +kernel
  obtain ⟨past, e, run, _, _, reached⟩ := Run.of_reaches usable reaches
  rw [Bool.and_eq_true, Bool.not_eq_true'] at reached
  obtain ⟨unadaptive, answered⟩ := reached
  cases performed : e.perform 120000 (.message lateMessage) with
  | error => simp [performed, Except.toOption] at answered
  | ok reply =>
    simp only [performed, Except.toOption, Option.any_some, Bool.and_eq_true, Reply.leaves,
      List.any_eq_true, Option.any_eq_true, decide_eq_true_eq, Bool.not_eq_true'] at answered
    obtain ⟨⟨⟨rate, change⟩, adjusted, t, taught, own, other⟩, u, stored, unadapted⟩ := answered
    exact ⟨past, e, reply, rate, change, t, u, run, unadaptive, performed, adjusted, taught, own,
      other, stored, unadapted⟩

theorem own_ttls_demoted : ∃ (past : List (Step Float)) (e : Engine Float) (t u : Traffic Float),
    Run demotedConfig 0 past e ∧ e.Reordered e ∧ e.traffic.get? "t" = some t ∧ t.adapted = true ∧
      (∃ step ∈ past, step.teaches "t" = true) ∧ e.traffic.get? "u" = some u ∧
      u.adapted = false ∧ u.ttl.millisWord = e.ttlMillis := by
  obtain ⟨past, e, reply, _, _, t, u, run, _, performed, _, taught, own, _, stored, unadapted⟩ :=
    demotedConfig_run
  have later := run.call (.refl e) performed
  obtain ⟨follows, _, adapted_iff⟩ := later.own_ttls (.refl reply.engine)
  exact ⟨_, reply.engine, t, u, later, .refl _, taught, own,
    (adapted_iff "t").1 ⟨t, taught, own⟩, stored, unadapted, (follows "u" u stored unadapted).1⟩

end GossipGate
