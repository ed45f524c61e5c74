import GossipGate.Proofs.TtlBounds

namespace GossipGate

variable {α : Type} [Scalar α] {e : Engine α} {now : Nat} {m : Message}

/-- Two records of a peer that tell the same about how it behaved. -/
structure Peer.SameStanding (a b : Peer α) : Prop where
  score : a.score = b.score
  trust : a.trust = b.trust
  duplicates : a.duplicates = b.duplicates
  blacklisted : a.blacklisted = b.blacklisted
  blacklistReason : a.blacklistReason = b.blacklistReason

theorem Peer.recordActivity_sameStanding (p : Peer α) (now : Nat) :
    (p.recordActivity now).SameStanding p := ⟨rfl, rfl, rfl, rfl, rfl⟩

theorem Peer.settle_of_blacklisted {p : Peer α} (listed : p.blacklisted = true) (duplicate : Bool)
    (rate : α) : (p.settle duplicate rate).1.blacklisted = true := by
  unfold settle scored
  simp only [listed, Bool.not_true, Bool.false_and, Bool.false_eq_true, if_false]

namespace Engine

/-- Whether the record of a peer is blacklisted. -/
def Lists (e : Engine α) (peer : String) : Prop :=
  ∃ record, e.peers.get? peer = some record ∧ record.blacklisted = true

omit [Scalar α] in
theorem Lists.insert {peer other : String} {record : Peer α} (lists : e.Lists peer)
    (own : other = peer → record.blacklisted = true) :
    ({ e with peers := e.peers.insert other record } : Engine α).Lists peer := by
  obtain ⟨old, found, listed⟩ := lists
  unfold Lists
  simp only [Table.get?_insert]
  by_cases same : peer = other
  · exact ⟨record, if_pos same, own same.symm⟩
  · exact ⟨old, by rw [if_neg same, found], listed⟩

theorem Lists.meet {peer : String} (lists : e.Lists peer) (other : String) :
    (e.meet other now).1.Lists peer := by
  unfold Engine.meet
  split
  · refine lists.insert ?_
    rintro rfl
    obtain ⟨old, found, listed⟩ := lists
    have own : (e.peerRecord other now).blacklisted = (e.peers.get? other).any Peer.blacklisted :=
      peerRecord_blacklisted other
    rw [found, Option.any_some, listed] at own
    exact own
  · exact lists

theorem Lists.judge {peer : String} (lists : e.Lists peer) (other : String) (duplicate : Bool) :
    (e.judge other duplicate).1.Lists peer := by
  unfold Engine.judge
  cases met : e.peers.get? other with
  | none => exact lists
  | some record =>
    refine lists.insert ?_
    rintro rfl
    obtain ⟨old, found, listed⟩ := lists
    cases Option.some.inj (met.symm.trans found)
    exact Peer.settle_of_blacklisted listed duplicate e.tuning.learningRate

/-- No change but a cleanup takes a peer off the blacklist. -/
theorem Lists.moves {peer : String} (lists : e.Lists peer) {last : Engine α}
    (moves : e.Moves now last) : last.Lists peer := by
  cases moves with
  | noted | measured | repeated | tracked | retiered => exact lists
  | met _ other => exact lists.meet other
  | judged _ other duplicate => exact lists.judge other duplicate
  | adjusted done =>
    obtain ⟨_, _, _, _, same⟩ := adjustTtl_fst done
    rw [same]
    exact lists

theorem Lists.perform {peer : String} (lists : e.Lists peer) {call : Call} {reply : Reply α Answer}
    (other : call ≠ .cleanup) (performed : e.perform now call = .ok reply) :
    reply.engine.Lists peer := by
  obtain ⟨count, _, goes⟩ := perform_goes other performed
  exact goes.keeps_always (fun _ _ step kept => Lists.moves kept step) lists

/-- A cleanup takes records away and changes none. -/
theorem cleanup_peers (e : Engine α) (now : Nat) (peer : String) :
    (e.cleanup now).engine.peers.get? peer =
      (e.peers.get? peer).filter fun record => !record.isIdle now e.tuning.reputationDecay :=
  Table.get?_filter _ _ _

/-- A blacklisted record goes only in a cleanup, and only where it is idle. -/
theorem perform_forgets_iff {peer : String} {known : Peer α}
    (stored : e.peers.get? peer = some known) (listed : known.blacklisted = true) {call : Call}
    {reply : Reply α Answer} (performed : e.perform now call = .ok reply) :
    reply.engine.peers.get? peer = none ↔
      call = .cleanup ∧ known.isIdle now e.tuning.reputationDecay = true := by
  by_cases clean : call = .cleanup
  · subst clean
    obtain rfl := Except.ok.inj performed
    show (e.cleanup now).engine.peers.get? peer = none ↔ _
    rw [cleanup_peers, stored, Option.filter_some]
    cases idle : known.isIdle now e.tuning.reputationDecay with
    | true => simp
    | false => simp
  · have lists : e.Lists peer := ⟨known, stored, listed⟩
    obtain ⟨again, remains, _⟩ := lists.perform clean performed
    rw [remains]
    simp [clean]

/-- The profile is always that of a tier, and no record is kept of a sender without a name. -/
structure Regular (e : Engine α) : Prop where
  profile : e.profile = .ofTier e.profile.tier
  nameless : e.peers.get? "" = none

omit [Scalar α] in
theorem Regular.insert (regular : e.Regular) {peer : String} (named : "" ≠ peer)
    (record : Peer α) : ({ e with peers := e.peers.insert peer record } : Engine α).Regular := by
  refine ⟨regular.profile, ?_⟩
  show (e.peers.insert peer record).get? "" = none
  rw [Table.get?_insert, if_neg named, regular.nameless]

theorem Regular.moves (regular : e.Regular) {last : Engine α} (moves : e.Moves now last) :
    last.Regular := by
  cases moves with
  | noted | measured | repeated | tracked => exact ⟨regular.profile, regular.nameless⟩
  | retiered => exact ⟨rfl, regular.nameless⟩
  | met _ peer =>
    unfold meet
    split
    · rename_i tracked
      refine regular.insert ?_ _
      rintro rfl
      simp at tracked
    · exact regular
  | judged _ peer duplicate =>
    unfold judge
    cases known : e.peers.get? peer with
    | none => exact regular
    | some record =>
      refine regular.insert ?_ _
      rintro rfl
      rw [regular.nameless] at known
      cases known
  | adjusted done =>
    obtain ⟨_, _, _, _, same⟩ := adjustTtl_fst done
    rw [same]
    exact ⟨regular.profile, regular.nameless⟩

omit [Scalar α] in
theorem Regular.blocks (regular : e.Regular) {peer : String} (lists : e.Lists peer)
    (paid : e.tier ≠ .free) (sent : m.peer = peer) : e.blocks m = true := by
  obtain ⟨record, found, listed⟩ := lists
  have named : peer.isEmpty = false := by
    rw [Bool.eq_false_iff]
    intro empty
    rw [String.isEmpty_iff.1 empty, regular.nameless] at found
    cases found
  have tracking : e.profile.peerTracking = true ∧ e.profile.reputationScoring = true := by
    rw [regular.profile]
    unfold tier at paid
    cases level : e.profile.tier with
    | free => exact absurd level paid
    | business | enterprise => exact ⟨rfl, rfl⟩
  unfold Engine.blocks
  simp only [tracking, sent, named, found, listed, Option.any_some, Bool.not_false, Bool.and_self]

/-- A message of a listed peer is suppressed without a look at the store. Nothing comes of it but
counts and the time of activity. -/
structure TurnsAway (e : Engine α) (m : Message) (known : Peer α) (reply : Reply α Bool) :
    Prop where
  value : reply.value = true
  store : reply.engine.store = e.store
  profile : reply.engine.profile = e.profile
  record : ∃ after, reply.engine.peers.get? m.peer = some after ∧ after.SameStanding known
  ttlMillis : reply.engine.ttlMillis = e.ttlMillis
  lastAdjust : reply.engine.lastAdjust = e.lastAdjust
  types : ∀ messageType t, reply.engine.traffic.get? messageType = some t →
    t.ttl = (e.trafficRecord messageType).ttl ∧ t.adapted = (e.trafficRecord messageType).adapted
  events : reply.events = [.suppressed e.tier m.messageType .blacklisted]

/-- The bookkeeping of a message of a listed peer. -/
theorem arrive_listed (now : Nat) (blocked : e.blocks m = true) {known : Peer α}
    (stored : e.peers.get? m.peer = some known) :
    ∃ t, t.ttl = (e.trafficRecord m.messageType).ttl ∧
      t.adapted = (e.trafficRecord m.messageType).adapted ∧
      e.arrive now m = .ok
        { engine :=
            { e with
              seen := e.seen + 1
              peers := e.peers.insert m.peer (known.recordActivity now)
              traffic := e.traffic.insert m.messageType t }
          scorer := some (known.recordActivity now)
          traffic := t
          events := [] } := by
  simp only [blocks, stored, Option.any_some, Bool.and_eq_true] at blocked
  obtain ⟨⟨tracked, scored⟩, listed⟩ := blocked
  have met : ({ e with seen := e.seen + 1 } : Engine α).meet m.peer now =
      ({ e with seen := e.seen + 1, peers := e.peers.insert m.peer (known.recordActivity now) },
        some (known.recordActivity now)) := by
    simp only [meet, peerRecord, tracked, stored, Bool.and_self, if_true]
  have black : (known.recordActivity now).blacklisted = true := listed
  let own := ((e.trafficRecord m.messageType).countSeen.recordSize m.metadata.bytes
    e.tuning.learningRate).countDuplicate
  have counted : e.measure now m true = .ok (own, none) := rfl
  have ttl := measure_ttl counted
  refine ⟨own, ttl.1, ttl.2, ?_⟩
  simp only [arrive, met, scored, if_true, Option.any_some, black, measure]
  rfl

theorem receive_turnsAway (named : m.hash.isEmpty = false) (blocked : e.blocks m = true)
    {known : Peer α} (stored : e.peers.get? m.peer = some known) :
    ∃ reply, e.receive now m = .ok reply ∧ e.TurnsAway m known reply := by
  obtain ⟨own, ttl, adapted, arrived⟩ := arrive_listed now blocked stored
  refine ⟨_, receive_blocked named blocked arrived, rfl, rfl, rfl, ?_, rfl, rfl, ?_, rfl⟩
  · refine ⟨known.recordActivity now, ?_, known.recordActivity_sameStanding now⟩
    show (e.peers.insert m.peer (known.recordActivity now)).get? m.peer = _
    rw [Table.get?_insert, if_pos rfl]
  · intro messageType t found
    have inserted : (e.traffic.insert m.messageType own).get? messageType = some t := found
    rw [Table.get?_insert] at inserted
    split at inserted
    · rename_i same
      cases inserted
      rw [same]
      exact ⟨ttl, adapted⟩
    · have known : e.trafficRecord messageType = t := by
        rw [trafficRecord, inserted, Option.getD_some]
      rw [known]
      exact ⟨rfl, rfl⟩

/-- The calls that a gate answered later, the latest first. -/
inductive Continues (e : Engine α) : List (Step α) → Engine α → Prop
  | here : Continues e [] e
  | call {later between gate now call reply} : Continues e later between →
      between.Reordered gate → gate.perform now call = .ok reply →
      Continues e (⟨gate, now, call, reply⟩ :: later) reply.engine

end Engine

/-- Whether a call removed the record of a peer. -/
def Step.removes (step : Step α) (peer : String) : Prop :=
  step.call = .cleanup ∧ (step.before.peers.get? peer).isSome = true ∧
    step.reply.engine.peers.get? peer = none

variable {c : Config α} {opened : Nat} {past later : List (Step α)} {last : Engine α}

theorem Run.continues (run : Run c opened past e) (continues : e.Continues later last) :
    Run c opened (later ++ past) last := by
  induction continues with
  | here => exact run
  | call _ reordered performed ih => exact ih.call reordered performed

theorem Run.regular (run : Run c opened past e) : e.Regular := by
  refine run.keeps_always Engine.Regular ?_ ?_ ?_ fun _ _ _ moves regular => regular.moves moves
  · intro reply started
    obtain ⟨ordered, rfl⟩ := Engine.start_assemble started
    exact ⟨rfl, rfl⟩
  · rintro e _ ⟨store, _, rfl⟩ regular
    exact ⟨regular.profile, regular.nameless⟩
  · intro now e regular
    refine ⟨regular.profile, ?_⟩
    rw [Engine.cleanup_peers, regular.nameless]
    rfl

/-- As long as no cleanup removes the record, nothing takes a peer off the blacklist. -/
theorem Engine.Continues.lists (continues : e.Continues later last) {peer : String}
    (lists : e.Lists peer) (kept : ∀ step ∈ later, ¬step.removes peer) : last.Lists peer := by
  induction continues with
  | here => exact lists
  | @call later between gate now call reply _ reordered performed ih =>
    obtain ⟨own, others⟩ := List.forall_mem_cons.1 kept
    obtain ⟨store, _, rfl⟩ := reordered
    have listed : (between.withStore store).Lists peer := ih others
    -- Only a cleanup takes records away, and this one kept the peer's.
    by_cases clean : call = .cleanup
    · subst clean
      obtain rfl := Except.ok.inj performed
      obtain ⟨record, found, black⟩ := listed
      have after := cleanup_peers (between.withStore store) now peer
      rw [found, Option.filter_some] at after
      split at after
      · exact ⟨record, after, black⟩
      · have present : ((between.withStore store).peers.get? peer).isSome = true := by
          rw [found]
          rfl
        exact absurd ⟨rfl, present, after⟩ own
    · exact listed.perform clean performed

/-- A peer stays on the blacklist until a cleanup removes its record. All that it sends to a paid
tier is turned away. A cleanup removes the record where it has been idle longer than the decay,
counted in a word of milliseconds; that is the decay itself where its milliseconds fit a word. -/
theorem Run.blacklisting_lasts (run : Run c opened past e) {peer : String} {record : Peer α}
    (found : e.peers.get? peer = some record) (listed : record.blacklisted = true)
    (continues : e.Continues later last) (kept : ∀ step ∈ later, ¬step.removes peer) :
    ∃ known, last.peers.get? peer = some known ∧ known.blacklisted = true ∧
      ∀ gate, last.Reordered gate →
        (∀ now m, m.hash.isEmpty = false → m.peer = peer → gate.tier ≠ .free →
          ∃ reply, gate.perform now (.message m) = .ok (reply.map .verdict) ∧
            gate.TurnsAway m known reply) ∧
        ∀ now call reply, gate.perform now call = .ok reply →
          (reply.engine.peers.get? peer = none ↔ call = .cleanup ∧
            c.reputationDecay.millisWord < now - known.lastActivity) ∧
          (c.reputationDecay.millis < UInt64.size → reply.engine.peers.get? peer = none →
            c.reputationDecay.nanos < (now - known.lastActivity) * 1000000) := by
  obtain ⟨known, stored, black⟩ := continues.lists ⟨record, found, listed⟩ kept
  have whole := run.continues continues
  have regular := whole.regular
  have decay := whole.tuning.2.2
  refine ⟨known, stored, black, ?_⟩
  rintro _ ⟨store, _, rfl⟩
  have lists : (last.withStore store).Lists peer := ⟨known, stored, black⟩
  constructor
  · intro now m named sent paid
    have blocked : (last.withStore store).blocks m = true :=
      Engine.Regular.blocks ⟨regular.profile, regular.nameless⟩ lists paid sent
    subst sent
    obtain ⟨reply, received, turned⟩ := Engine.receive_turnsAway named blocked stored
    exact ⟨reply, Engine.perform_of_receive received, turned⟩
  · intro now call reply performed
    have gone := Engine.perform_forgets_iff (e := last.withStore store) stored black performed
    rw [Engine.withStore_tuning, decay, Peer.isIdle, decide_eq_true_eq] at gone
    refine ⟨gone, fun short absent => ?_⟩
    have word : c.reputationDecay.millisWord = c.reputationDecay.millis := Nat.mod_eq_of_lt short
    have idle := (gone.1 absent).2
    rw [word] at idle
    exact (Nat.div_lt_iff_lt_mul (by decide)).1 idle

/-- Settings of the BUSINESS tier that learn at once and forget peers after 2^64 milliseconds. -/
def floodConfig : Config Float :=
  { Config.ofTier .business with
    learningRate := 1.0
    reputationDecay := .ofMillis 18446744073709551616 }

def floodMessage : Message := ⟨"a", "t", "p", Metadata.empty⟩

def floodCalls : List (Nat × Call) := List.replicate 51 (0, .message floodMessage)

theorem floodConfig_usable : floodConfig.problem? = none := by decide +kernel

theorem floodConfig_run : ∃ (past : List (Step Float)) (e : Engine Float) (record : Peer Float),
    Run floodConfig 0 past e ∧ e.peers.get? "p" = some record ∧ record.blacklisted = true ∧
      record.lastActivity = 0 := by
  have reaches : (Engine.assemble floodConfig
      (Config.minTtl_le_maxTtl floodConfig_usable) 0).engine.reaches floodCalls
        (fun e => (e.peers.get? "p").any fun record =>
          record.blacklisted && record.lastActivity == 0) = true := by
    decide +kernel
  obtain ⟨past, e, run, _, _, lists⟩ := Run.of_reaches floodConfig_usable reaches
  cases found : e.peers.get? "p" with
  | none => simp [found] at lists
  | some record =>
    simp only [found, Option.any_some, Bool.and_eq_true, beq_iff_eq] at lists
    exact ⟨past, e, record, run, found, lists.1, lists.2⟩

/-- A cleanup removes a blacklisted record that has been idle for a millisecond of 2^64. -/
theorem blacklisted_forgotten : ∃ (past : List (Step Float)) (e : Engine Float)
    (record : Peer Float) (reply : Reply Float Answer), Run floodConfig 0 past e ∧
      e.peers.get? "p" = some record ∧ record.blacklisted = true ∧
      e.perform 1 .cleanup = .ok reply ∧ reply.engine.peers.get? "p" = none ∧
      ¬floodConfig.reputationDecay.nanos < (1 - record.lastActivity) * 1000000 := by
  obtain ⟨past, e, record, run, found, listed, active⟩ := floodConfig_run
  refine ⟨past, e, record, _, run, found, listed, rfl, ?_, ?_⟩
  · have removed := Engine.cleanup_peers e 1 "p"
    have word : floodConfig.reputationDecay.millisWord = 0 := by decide +kernel
    have decay := run.tuning.2.2
    rw [found, Option.filter_some] at removed
    simp only [Peer.isIdle, decay, word, active] at removed
    exact removed
  · rw [active]
    decide +kernel

/-- The peer is still turned away after the tier was FREE for a while. -/
theorem blacklisting_lasts_flooding : ∃ (past later : List (Step Float)) (e last : Engine Float)
    (record known : Peer Float) (reply : Reply Float Bool), Run floodConfig 0 past e ∧
      e.peers.get? "p" = some record ∧ record.blacklisted = true ∧
      e.Continues later last ∧ (∀ step ∈ later, ¬step.removes "p") ∧ later.length = 2 ∧
      floodMessage.hash.isEmpty = false ∧ floodMessage.peer = "p" ∧ last.tier ≠ .free ∧
      last.perform 5 (.message floodMessage) = .ok (reply.map .verdict) ∧
      last.TurnsAway floodMessage known reply := by
  obtain ⟨past, e, record, run, found, listed, _⟩ := floodConfig_run
  obtain ⟨later, last, continues, kept, length, paid⟩ : ∃ later last, e.Continues later last ∧
      (∀ step ∈ later, ¬step.removes "p") ∧ later.length = 2 ∧ last.tier ≠ .free := by
    have away : e.perform 1 (.setTier "FREE") =
      .ok ((e.setTier 1 "FREE").map fun _ => .done) := rfl
    have back : (e.setTier 1 "FREE").engine.perform 2 (.setTier "BUSINESS") =
      .ok (((e.setTier 1 "FREE").engine.setTier 2 "BUSINESS").map fun _ => .done) := rfl
    refine ⟨_, _, (Engine.Continues.here.call (Engine.Reordered.refl e) away).call
      (Engine.Reordered.refl _) back, ?_, rfl, ?_⟩
    · rintro step member ⟨clean, _⟩
      rcases List.mem_cons.1 member with rfl | earlier
      · cases clean
      · rw [List.mem_singleton.1 earlier] at clean
        cases clean
    · show Tier.serving "BUSINESS" ≠ .free
      decide +kernel
  obtain ⟨known, _, _, ignored⟩ := run.blacklisting_lasts found listed continues kept
  obtain ⟨reply, performed, turned⟩ :=
    (ignored last (Engine.Reordered.refl last)).1 5 floodMessage rfl rfl paid
  exact ⟨past, later, e, last, record, known, reply, run, found, listed, continues, kept, length,
    rfl, rfl, paid, performed, turned⟩

end GossipGate
