import GossipGate.Proofs.Counters
import GossipGate.Proofs.Tracking
import GossipGate.Proofs.TtlBounds

namespace GossipGate

/-- A word of milliseconds is the count of the duration that it makes. -/
theorem Duration.millisWord_ofMillis {n : Nat} (word : n < UInt64.size) :
    (ofMillis n).millisWord = n := by
  have word' : n < 18446744073709551616 := word
  have nanos : (ofMillis n).nanos = n * 1000000 := by
    refine nanos_ofNanos ?_
    unfold limit
    omega
  have millis : (ofMillis n).millis = n := by
    unfold Duration.millis
    omega
  unfold millisWord
  rw [millis]
  exact Nat.mod_eq_of_lt word

theorem Duration.millisWord_lt (d : Duration) : d.millisWord < UInt64.size :=
  Nat.mod_lt _ (by decide)

variable {α : Type} [Scalar α]

/-- Usable settings have an initial TTL between their bounds. -/
theorem Config.bounds_contains {c : Config α} (usable : c.problem? = none) :
    c.bounds.contains c.effectiveBaseTtl = true := by
  have settings := fits usable
  exact TtlBounds.contains_iff.2 ⟨settings.above, settings.below⟩

/-- The TTL of the latest adjustment, and the one from the start before there is any. -/
def ttlInForce (first : Duration) : List (Step α) → Duration
  | [] => first
  | step :: past =>
    match adjustments step.reply.events with
    | [] => ttlInForce first past
    | (_, change) :: _ => change.ttl

theorem ttlInForce_cons {first : Duration} {step : Step α} {past : List (Step α)}
    {e last : Engine α} (retimes : e.Retimes last (adjustments step.reply.events))
    (before : e.ttlMillis = (ttlInForce first past).millisWord) :
    last.ttlMillis = (ttlInForce first (step :: past)).millisWord := by
  unfold ttlInForce
  rcases retimes with ⟨none, same⟩ | ⟨change, _, one, changed⟩
  · rw [none, same, before]
  · rw [one, changed]

variable {c : Config α} {opened : Nat} {past : List (Step α)} {e : Engine α} {now : Nat}
  {m : Message}

/-- The global TTL is the one of the latest adjustment, in a word of milliseconds. -/
theorem Run.ttlMillis_eq (run : Run c opened past e) :
    e.ttlMillis = (ttlInForce c.effectiveBaseTtl past).millisWord := by
  induction run with
  | start started =>
    have inside := Config.bounds_contains (Engine.start_usable started)
    obtain ⟨ordered, rfl⟩ := Engine.start_assemble started
    exact congrArg Duration.millisWord (TtlWindow.nearest_of_contains inside)
  | call _ reordered performed ih =>
    obtain ⟨store, _, rfl⟩ := reordered
    exact ttlInForce_cons (Engine.perform_counts performed).retimes ih

/-- Before the hundredth message there is no adjustment. -/
theorem Run.ttlInForce_of_few (run : Run c opened past e) (first : Duration)
    (few : past.countP Step.isNamed < 100) : ttlInForce first past = first := by
  induction run with
  | start => rfl
  | @call past e gate now call reply before reordered performed ih =>
    rw [List.countP_cons] at few
    -- The count that an adjustment needs is only ever halved besides, so it stays below the calls.
    have seen := before.counted.few
    obtain ⟨store, _, rfl⟩ := reordered
    have retimes := (Engine.perform_counts performed).retimes
    unfold ttlInForce
    rcases retimes with ⟨none, _⟩ | ⟨change, many, _⟩
    · rw [none]
      exact ih (by omega)
    · have counted : 100 ≤ e.seen + if _ then 1 else 0 := many
      omega

namespace Engine

/-- The TTL of a type that learned none is the global one, in a word of milliseconds. -/
structure TtlsFollow (e : Engine α) : Prop where
  word : e.ttlMillis < UInt64.size
  types : ∀ messageType t, e.traffic.get? messageType = some t → t.adapted = false →
    t.ttl.millisWord = e.ttlMillis

omit [Scalar α] in
theorem TtlsFollow.congr {gate : Engine α} (follows : e.TtlsFollow)
    (global : gate.ttlMillis = e.ttlMillis) (traffic : gate.traffic = e.traffic) :
    gate.TtlsFollow := by
  obtain ⟨word, types⟩ := follows
  exact ⟨global ▸ word, by rw [global, traffic]; exact types⟩

theorem TtlsFollow.trafficRecord (follows : e.TtlsFollow) {messageType : String}
    (unlearned : (e.trafficRecord messageType).adapted = false) :
    (e.trafficRecord messageType).ttl.millisWord = e.ttlMillis := by
  unfold Engine.trafficRecord at unlearned ⊢
  cases stored : e.traffic.get? messageType with
  | none => exact Duration.millisWord_ofMillis follows.word
  | some t =>
    rw [stored] at unlearned
    exact follows.types messageType t stored unlearned

/-- A type that learned none takes the TTL of an adjustment. -/
theorem ttl_follow {global : Duration} {learned : List (String × Traffic α)}
    (done : e.learn global = .ok learned) {messageType : String} {t : Traffic α}
    (unlearned : (follow learned global messageType t).adapted = false) :
    (follow learned global messageType t).ttl = global := by
  unfold follow at unlearned ⊢
  cases found : learned.lookup messageType with
  | some own =>
    obtain ⟨before, after, split, _⟩ := List.lookup_eq_some_iff.1 found
    obtain ⟨_, _, _, _, rfl⟩ := learn_mem done (show (messageType, own) ∈ learned by simp [split])
    simp [found] at unlearned
  | none =>
    simp only [found] at unlearned ⊢
    split at unlearned
    · rename_i own
      rw [own] at unlearned
      cases unlearned
    · rename_i other
      rw [if_neg other]

theorem TtlsFollow.moves (follows : e.TtlsFollow) {last : Engine α} (moves : e.Moves now last) :
    last.TtlsFollow := by
  cases moves with
  | noted | tracked | retiered => exact follows.congr rfl rfl
  | met _ peer =>
    rw [meet_fst]
    exact follows.congr rfl rfl
  | judged _ peer duplicate =>
    rw [judge_fst]
    exact follows.congr rfl rfl
  | @measured _ m _ _ done =>
    obtain ⟨ttl, adapted⟩ := measure_ttl done
    refine ⟨follows.word, fun messageType t stored unlearned => ?_⟩
    rw [Table.get?_insert] at stored
    split at stored
    · cases stored
      rw [adapted] at unlearned
      rw [ttl]
      exact follows.trafficRecord unlearned
    · exact follows.types messageType t stored unlearned
  | repeated _ messageType =>
    refine ⟨follows.word, fun other t stored unlearned => ?_⟩
    rw [Table.get?_modify] at stored
    split at stored
    · obtain ⟨old, found, rfl⟩ := Option.map_eq_some_iff.1 stored
      exact follows.types other old found unlearned
    · exact follows.types other t stored unlearned
  | adjusted done =>
    rcases adjustTtl_adjusts done with same | ⟨change, learned, adjusts⟩
    · rw [same]
      exact follows
    · rw [adjusts.last_eq]
      refine ⟨change.ttl.millisWord_lt, fun messageType t stored unlearned => ?_⟩
      rw [Table.get?_mapValues] at stored
      obtain ⟨old, found, rfl⟩ := Option.map_eq_some_iff.1 stored
      exact congrArg Duration.millisWord (ttl_follow adjusts.learns unlearned)

theorem start_ttlsFollow {reply : Reply α Unit} (started : Engine.start c opened = .ok reply) :
    reply.engine.TtlsFollow := by
  obtain ⟨ordered, rfl⟩ := start_assemble started
  refine ⟨Duration.millisWord_lt _, fun messageType t stored => ?_⟩
  cases stored

/-- Nothing is learned for types, and nothing was. -/
structure Unlearned (e : Engine α) : Prop where
  profile : e.profile.adaptiveLearning = false
  types : ∀ messageType t, e.traffic.get? messageType = some t → t.adapted = false

theorem Unlearned.trafficRecord (unlearned : e.Unlearned) (messageType : String) :
    (e.trafficRecord messageType).adapted = false := by
  unfold Engine.trafficRecord
  cases stored : e.traffic.get? messageType with
  | none => rfl
  | some t => exact unlearned.types messageType t stored

theorem Unlearned.arrive (unlearned : e.Unlearned) {a : Arrival α}
    (arrived : e.arrive now m = .ok a) : a.engine.Unlearned := by
  obtain ⟨peers, measured, done, _, engine⟩ := arrive_engine arrived
  rw [engine]
  refine ⟨unlearned.profile, fun messageType t stored => ?_⟩
  rw [Table.get?_insert] at stored
  split at stored
  · cases stored
    rw [(measure_ttl done).2]
    exact unlearned.trafficRecord m.messageType
  · exact unlearned.types messageType t stored

theorem Unlearned.adjustTtl (unlearned : e.Unlearned) {result : Engine α × List (Event α)}
    (done : e.adjustTtl = .ok result) : result.1.Unlearned := by
  rcases adjustTtl_adjusts done with same | ⟨change, learned, adjusts⟩
  · rw [same]
    exact unlearned
  · have learns := adjusts.learns
    rw [learn_unadaptive unlearned.profile] at learns
    cases learns
    rw [adjusts.last_eq]
    refine ⟨unlearned.profile, fun messageType t stored => ?_⟩
    rw [Table.get?_mapValues] at stored
    obtain ⟨old, found, rfl⟩ := Option.map_eq_some_iff.1 stored
    have before := unlearned.types messageType old found
    unfold follow
    simp [before]

theorem Unlearned.adjustIfDue (unlearned : e.Unlearned) {result : Engine α × List (Event α)}
    (done : e.adjustIfDue now = .ok result) : result.1.Unlearned := by
  rcases adjustIfDue_cases done with ⟨_, rfl⟩ | ⟨_, adjusted⟩
  · exact unlearned
  · exact Unlearned.adjustTtl (e := { e with lastAdjust := now })
      ⟨unlearned.profile, unlearned.types⟩ adjusted

theorem Unlearned.receive (unlearned : e.Unlearned) {reply : Reply α Bool}
    (receives : e.Receives now m reply) : reply.engine.Unlearned := by
  cases receives with
  | nameless => exact unlearned
  | @blocked arrival _ _ arrived =>
    have known := unlearned.arrive arrived
    exact ⟨known.profile, known.types⟩
  | @suppressed arrival _ _ arrived _ =>
    have known := unlearned.arrive arrived
    obtain ⟨peers, engine⟩ := suppress_engine (m := m)
      (e := arrival.engine.withStore (lookUp now arrival m).store) arrival
    simp only [Reply.after, engine]
    refine ⟨known.profile, fun messageType t stored => ?_⟩
    rw [Table.get?_modify] at stored
    split at stored
    · obtain ⟨old, found, rfl⟩ := Option.map_eq_some_iff.1 stored
      exact known.types messageType old found
    · exact known.types messageType t stored
  | @passed arrival _ _ _ arrived _ passed =>
    have known := unlearned.arrive arrived
    obtain ⟨peers, result, adjusted, engine, _⟩ := pass_adjusts passed
    simp only [Reply.after, engine]
    refine Unlearned.adjustIfDue ?_ adjusted
    exact ⟨known.profile, known.types⟩

theorem Unlearned.perform (unlearned : e.Unlearned) {call : Call}
    (other : ∀ requested, call ≠ .setTier requested) {reply : Reply α Answer}
    (performed : e.perform now call = .ok reply) : reply.engine.Unlearned := by
  cases call with
  | message m =>
    obtain ⟨answer, answered, rfl⟩ := perform_message performed
    exact unlearned.receive (receive_receives answered)
  | setTier requested => exact absurd rfl (other requested)
  | activity peer =>
    obtain rfl := Except.ok.inj performed
    have same : (e.meet peer now).1 = { e with peers := (e.meet peer now).1.peers } :=
      e.meet_fst peer
    unfold trackPeer
    rw [same]
    exact ⟨unlearned.profile, unlearned.types⟩
  | cleanup | close =>
    obtain rfl := Except.ok.inj performed
    exact ⟨unlearned.profile, unlearned.types⟩

/-- The known networks stay as they are while a gate is open. -/
theorem Moves.networks {last : Engine α} (moves : e.Moves now last) :
    last.networks = e.networks := by
  cases moves with
  | met _ peer => rw [meet_fst]
  | judged _ peer duplicate => rw [judge_fst]
  | adjusted done =>
    obtain ⟨_, _, _, _, same⟩ := adjustTtl_fst done
    rw [same]
  | noted | measured | repeated | tracked | retiered => rfl

end Engine

theorem Run.ttlsFollow (run : Run c opened past e) : e.TtlsFollow := by
  refine run.keeps_always Engine.TtlsFollow (fun _ started => Engine.start_ttlsFollow started) ?_ ?_
    fun _ _ _ moves follows => follows.moves moves
  · rintro e _ ⟨store, _, rfl⟩ follows
    exact follows.congr rfl rfl
  · intro now e follows
    exact follows.congr rfl rfl

theorem Run.unlearned (run : Run c opened past e)
    (unadaptive : (Profile.ofTier c.tier).adaptiveLearning = false)
    (untiered : ∀ step ∈ past, ∀ requested, step.call ≠ .setTier requested) : e.Unlearned := by
  induction run with
  | start started =>
    obtain ⟨ordered, rfl⟩ := Engine.start_assemble started
    exact ⟨unadaptive, fun messageType t stored => by cases stored⟩
  | call _ reordered performed ih =>
    obtain ⟨own, others⟩ := List.forall_mem_cons.1 untiered
    have unlearned := ih others
    obtain ⟨store, _, rfl⟩ := reordered
    exact Engine.Unlearned.perform (e := Engine.withStore _ store)
      ⟨unlearned.profile, unlearned.types⟩ own performed

theorem Run.networks (run : Run c opened past e) :
    e.networks = c.networks.foldl Networks.register .wellKnown := by
  refine run.keeps_always (fun e => e.networks = _) ?_ ?_ (fun _ _ same => same)
    fun _ _ _ moves same => moves.networks.trans same
  · intro reply started
    obtain ⟨ordered, rfl⟩ := Engine.start_assemble started
    rfl
  · rintro e _ ⟨store, _, rfl⟩ same
    exact same

end GossipGate
