import GossipGate.Proofs.MessageEffects

namespace GossipGate

variable {α : Type} {s : Store α} {items : List (Key × Entry α)} {now : Nat} {m : Message}

/-- What one message may change in the store: of the entry under its key nothing but the time and
the count of its sightings and its confidence, and of the others at most one goes, which takes a
new key and a full store. -/
structure Store.Touches (s last : Store α) (key : Key) : Prop where
  others : (∀ other, other ≠ key → last.get? other = s.get? other) ∨
    s.get? key = none ∧ s.size = s.capacity ∧
      ∃ victim entry, victim ≠ key ∧ s.get? victim = some entry ∧ last.get? victim = none ∧
        ∀ other, other ≠ key → other ≠ victim → last.get? other = s.get? other
  own : ∀ entry, s.get? key = some entry → ∃ lastSeen seenCount confidence,
    last.get? key = some { entry with lastSeen, seenCount, confidence }

theorem Store.Touches.refl (s : Store α) (key : Key) : s.Touches s key :=
  ⟨Or.inl fun _ _ => rfl, fun _ stored => ⟨_, _, _, stored⟩⟩

theorem Store.Holds.touches_modify (holds : s.Holds items) (key : Key) {f : Entry α → Entry α}
    (sighted : ∀ entry, ∃ lastSeen seenCount confidence,
      f entry = { entry with lastSeen, seenCount, confidence }) :
    s.Touches (s.modify key f) key := by
  have seq_eq : ∀ entry, (f entry).seq = entry.seq := by
    intro entry
    obtain ⟨_, _, _, same⟩ := sighted entry
    rw [same]
  refine ⟨Or.inl fun other different => ?_, fun entry stored => ?_⟩
  · rw [holds.get?_modify key other seq_eq, if_neg different]
  · obtain ⟨lastSeen, seenCount, confidence, same⟩ := sighted entry
    refine ⟨lastSeen, seenCount, confidence, ?_⟩
    rw [holds.get?_modify key key seq_eq, if_pos rfl, stored, Option.map_some, same]

/-- An eviction leaves all entries but the one that it takes. -/
theorem Eviction.Takes.get?_left {eviction : Eviction α} {item : Key × Entry α}
    (takes : eviction.Takes s items item) (holds : s.Holds items) (key : Key) :
    eviction.left.get? key = if key = item.1 then none else s.get? key := by
  apply Option.ext
  intro entry
  rw [takes.left.lookup, List.mem_filter, ← holds.lookup, decide_eq_true_eq]
  by_cases own : key = item.1
  · simp [own]
  · simp [own]

variable [Scalar α] {e : Engine α} {seen : Sighting α}

theorem Engine.sightAgain_eq (entry : Entry α) : ∃ lastSeen seenCount confidence,
    e.sightAgain now entry = { entry with lastSeen, seenCount, confidence } := by
  unfold sightAgain
  dsimp only
  split <;> exact ⟨_, _, _, rfl⟩

theorem Admits.touches {admission : Admission α} (admits : Admits e now seen s items admission)
    (holds : s.Holds items) : s.Touches admission.store seen.key := by
  cases admits with
  | duplicate => exact holds.touches_modify seen.key Engine.sightAgain_eq
  | refreshed => exact holds.touches_modify seen.key fun _ => ⟨_, _, _, rfl⟩
  | inserted absent stored =>
    refine ⟨Or.inl fun other different => ?_, fun entry found => ?_⟩
    · rw [holds.get?_insert absent stored, if_neg different]
    · rw [absent] at found
      cases found
  | @replaced item _ absent full takes stored =>
    have own : s.get? item.1 = some item.2 := (holds.lookup _ _).2 takes.member
    have apart : item.1 ≠ seen.key := holds.absent_iff.1 absent item takes.member
    -- The insertion goes into what the eviction left, where the key is still new.
    have gone : (e.evictOne now s).left.get? seen.key = none := by
      rw [takes.get?_left holds, absent, ite_self]
    refine ⟨Or.inr ⟨absent, full, item.1, item.2, apart, own, ?_, fun other new kept => ?_⟩,
      fun entry found => ?_⟩
    · rw [takes.left.get?_insert gone stored, if_neg apart, takes.get?_left holds, if_pos rfl]
    · rw [takes.left.get?_insert gone stored, if_neg new, takes.get?_left holds, if_neg kept]
    · rw [absent] at found
      cases found

/-- An expired entry starts anew in its place. -/
theorem Admits.refreshed_size {admission : Admission α}
    (admits : Admits e now seen s items admission) (restarts : admission.outcome = .refreshed) :
    admission.store.size = s.size := by
  cases admits with
  | refreshed => rfl
  | duplicate | inserted | replaced => cases restarts

namespace Engine

/-! ### The records of other peers -/

theorem meet_other {peer other : String} (different : peer ≠ other) :
    (e.meet other now).1.peers.get? peer = e.peers.get? peer := by
  unfold meet
  split
  · show (e.peers.insert other _).get? peer = _
    rw [Table.get?_insert, if_neg different]
  · rfl

theorem judge_other {peer other : String} (different : peer ≠ other) (duplicate : Bool) :
    (e.judge other duplicate).1.peers.get? peer = e.peers.get? peer := by
  unfold judge
  split
  · rfl
  · show (e.peers.insert other _).get? peer = _
    rw [Table.get?_insert, if_neg different]

theorem judgeCaller_other {peer : String} (different : peer ≠ m.peer) (a : Arrival α)
    (duplicate : Bool) :
    (e.judgeCaller a m duplicate).1.peers.get? peer = e.peers.get? peer := by
  unfold judgeCaller
  split
  · exact judge_other different duplicate
  · rfl

theorem arrive_peers {a : Arrival α} (arrived : e.arrive now m = .ok a) :
    a.engine.peers = ({ e with seen := e.seen + 1 }.meet m.peer now).1.peers := by
  obtain ⟨measured, _, last⟩ := bind_eq_ok arrived
  cases last
  rfl

theorem pass_peers {a : Arrival α} {outcome : Outcome} {reply : Reply α Bool}
    (passed : e.pass now a m outcome = .ok reply) :
    reply.engine.peers =
      (if outcome = .inserted then e.judgeCaller a m false else (e, [])).1.peers := by
  obtain ⟨result, adjusted, last⟩ := bind_eq_ok passed
  cases last
  obtain ⟨_, _, _, _, _, same⟩ := adjustIfDue_fst adjusted
  show result.1.peers = _
  rw [same]

/-- A message changes no record of a peer but that of its sender. -/
theorem Receives.peers_other {reply : Reply α Bool} (receives : e.Receives now m reply)
    {peer : String} (different : peer ≠ m.peer) :
    reply.engine.peers.get? peer = e.peers.get? peer := by
  have met : ∀ a, e.arrive now m = .ok a → a.engine.peers.get? peer = e.peers.get? peer := by
    intro a arrived
    rw [arrive_peers arrived]
    exact meet_other (e := { e with seen := e.seen + 1 }) different
  cases receives with
  | nameless => rfl
  | blocked _ _ arrived => exact met _ arrived
  | suppressed _ _ arrived _ => exact (judgeCaller_other different _ true).trans (met _ arrived)
  | passed _ _ arrived _ passed =>
    refine (congrArg (fun peers => peers.get? peer) (pass_peers passed)).trans ?_
    split
    · exact (judgeCaller_other different _ false).trans (met _ arrived)
    · exact met _ arrived

/-- A sender that is not judged keeps its standing, a new one starts with that of a new record. -/
theorem arrive_standing {a : Arrival α} (arrived : e.arrive now m = .ok a) :
    a.engine.peers.get? m.peer = e.peers.get? m.peer ∨
      ∃ after, a.engine.peers.get? m.peer = some after ∧
        after.SameStanding (e.peerRecord m.peer now) := by
  rw [arrive_peers arrived]
  unfold meet
  split
  · right
    refine ⟨(e.peerRecord m.peer now).recordActivity now, ?_,
      Peer.recordActivity_sameStanding _ now⟩
    show (e.peers.insert m.peer _).get? m.peer = _
    rw [Table.get?_insert, if_pos rfl]
    rfl
  · exact Or.inl rfl

/-! ### The records of types -/

/-- An adjustment changes nothing of a type but its TTL and whether it has one of its own. -/
theorem Adjusts.exists_eq {change : TtlChange} {learned : List (String × Traffic α)}
    {last : Engine α} (adjusts : e.Adjusts change learned last) {messageType : String}
    {t : Traffic α} (stored : e.traffic.get? messageType = some t) :
    ∃ ttl adapted, last.traffic.get? messageType = some { t with ttl, adapted } := by
  obtain ⟨after, found, adapts⟩ := adjusts.adapts stored
  obtain ⟨ttl, adapted, rfl⟩ := adapts.exists_eq
  exact ⟨ttl, adapted, found⟩

/-- The type of another message keeps its record, but for what an adjustment makes of its TTL. -/
theorem Concludes.types_other {reply : Reply α Bool} (concludes : e.Concludes now m reply)
    {messageType : String} (different : messageType ≠ m.messageType) :
    reply.engine.traffic.get? messageType = e.traffic.get? messageType ∨
      adjustments reply.events ≠ [] ∧ ∃ t ttl adapted, e.traffic.get? messageType = some t ∧
        reply.engine.traffic.get? messageType = some { t with ttl, adapted } := by
  cases concludes with
  | nameless _ same =>
    rw [same]
    exact Or.inl rfl
  | suppressed _ _ hears | early _ _ _ hears | sparse _ _ _ _ hears =>
    exact Or.inl (hears.others messageType different)
  | adjusted _ _ _ _ hears _ _ adjusts told =>
    have kept := hears.others messageType different
    cases stored : e.traffic.get? messageType with
    | none => exact Or.inl (by rw [adjusts.get?_eq, kept, stored, Option.map_none])
    | some t =>
      obtain ⟨ttl, adapted, after⟩ := adjusts.exists_eq (kept.trans stored)
      exact Or.inr ⟨by simp [told], t, ttl, adapted, rfl, after⟩

/-- A message that passes counts no duplicate, neither for its type nor in all. An adjustment
halves the latter count. -/
theorem Concludes.passed_duplicates {reply : Reply α Bool} (concludes : e.Concludes now m reply)
    (named : m.hash.isEmpty = false) (passes : reply.value = false) :
    (∃ t, reply.engine.traffic.get? m.messageType = some t ∧
      t.duplicates = (e.trafficRecord m.messageType).duplicates) ∧
    reply.engine.duplicates =
      if adjustments reply.events = [] then e.duplicates else e.duplicates / 2 := by
  cases concludes with
  | nameless nothing =>
    rw [named] at nothing
    cases nothing
  | suppressed _ value =>
    rw [passes] at value
    cases value
  | early _ _ _ hears duplicates _ unadjusted | sparse _ _ _ _ hears duplicates _ unadjusted =>
    obtain ⟨t, found, counts⟩ := hears.own
    rw [unadjusted, if_pos rfl]
    exact ⟨⟨t, found, counts.duplicates⟩, duplicates⟩
  | adjusted _ _ _ _ hears duplicates _ adjusts told =>
    obtain ⟨t, found, counts⟩ := hears.own
    obtain ⟨ttl, adapted, after⟩ := adjusts.exists_eq found
    refine ⟨⟨_, after, counts.duplicates⟩, ?_⟩
    rw [told, if_neg (List.cons_ne_nil _ _), ← duplicates, adjusts.last_eq]

/-! ### The whole gate -/

/-- What a message leaves alone where it starts an expired entry anew. -/
structure Restarts (e : Engine α) (now : Nat) (m : Message) (last : Engine α)
    (told : List (α × TtlChange)) : Prop where
  peer : last.peers.get? m.peer = e.peers.get? m.peer ∨
    ∃ after, last.peers.get? m.peer = some after ∧ after.SameStanding (e.peerRecord m.peer now)
  type : ∃ t, last.traffic.get? m.messageType = some t ∧
    t.duplicates = (e.trafficRecord m.messageType).duplicates
  size : last.store.size = e.store.size
  duplicates : last.duplicates = if told = [] then e.duplicates else e.duplicates / 2

/-- Where a message leaves its traces, some adjustments included: in the record of its sender, in
that of its type, in the entry under its key and that of one victim. -/
structure Footprint (e : Engine α) (now : Nat) (m : Message) (last : Engine α)
    (told : List (α × TtlChange)) : Prop where
  peers : ∀ peer, peer ≠ m.peer → last.peers.get? peer = e.peers.get? peer
  types : ∀ messageType, messageType ≠ m.messageType →
    last.traffic.get? messageType = e.traffic.get? messageType ∨
      told ≠ [] ∧ ∃ t ttl adapted, e.traffic.get? messageType = some t ∧
        last.traffic.get? messageType = some { t with ttl, adapted }
  store : e.store.Touches last.store (e.keyOf m)
  restarted : (e.admission? now m).map Admission.outcome = some .refreshed →
    e.Restarts now m last told

theorem Receives.touches {reply : Reply α Bool} (receives : e.Receives now m reply)
    (holds : e.store.Holds items) (usable : 0 < e.store.capacity)
    (fits : e.store.size ≤ e.store.capacity) :
    e.store.Touches reply.engine.store (e.keyOf m) := by
  cases asks : e.asked? m with
  | none =>
    rw [(receives.unasked asks).1]
    exact .refl _ _
  | some key =>
    obtain ⟨a, arrived, _, same, _⟩ := receives.asked asks
    rw [same, ← (arrive_follows arrived).key]
    exact (lookUp_admits holds usable fits arrived).touches holds

theorem Receives.restarts {reply : Reply α Bool} (receives : e.Receives now m reply)
    (holds : e.store.Holds items) (usable : 0 < e.store.capacity)
    (fits : e.store.size ≤ e.store.capacity)
    (restarted : (e.admission? now m).map Admission.outcome = some .refreshed) :
    e.Restarts now m reply.engine (adjustments reply.events) := by
  have concludes := receives.concludes
  obtain ⟨_, asks, outcome⟩ := Option.map_eq_some_iff.1 restarted
  obtain ⟨key, asked, _⟩ := Option.bind_eq_some_iff.1 asks
  obtain ⟨a, arrived, admitted, store, value_iff⟩ := receives.asked asked
  cases Option.some.inj (admitted.symm.trans asks)
  have passes : reply.value = false := by
    rw [← Bool.not_eq_true, value_iff, outcome]
    decide
  obtain ⟨type, duplicates⟩ := concludes.passed_duplicates (asked?_eq_some asked).1 passes
  refine ⟨?_, type, ?_, duplicates⟩
  · cases receives with
    | nameless named => simp [asked?, named] at asked
    | blocked _ blocked => simp [asked?, blocked] at asked
    | suppressed => cases passes
    | @passed arrival _ _ _ again _ passed =>
      cases Except.ok.inj (arrived.symm.trans again)
      have peers := pass_peers passed
      rw [if_neg (by simp [outcome])] at peers
      rw [show (Reply.after _ _).engine.peers = a.engine.peers from peers]
      exact arrive_standing arrived
  · rw [store]
    exact (lookUp_admits holds usable fits arrived).refreshed_size outcome

end Engine

variable {c : Config α} {opened : Nat} {past : List (Step α)}

/-- A message changes no record of a peer but that of its sender; of the other types no more than
an adjustment does to their TTLs; of the entries that under its own key, which stays the entry of
the same message, and one that is evicted for a new key in a full store. Where an expired entry
starts anew nothing counts as a duplicate. A message without a hash changes nothing. -/
theorem Run.footprint (run : Run c opened past e) {gate : Engine α} (reordered : e.Reordered gate)
    (now : Nat) (m : Message) :
    (m.hash.isEmpty = true → gate.perform now (.message m) = .ok ⟨gate, .verdict false, []⟩) ∧
      ∀ reply, gate.perform now (.message m) = .ok reply →
        gate.Footprint now m reply.engine (adjustments reply.events) := by
  constructor
  · intro nameless
    simp only [Engine.perform, Engine.receive, nameless, if_true]
    rfl
  · intro reply performed
    obtain ⟨answer, answered, rfl⟩ := Engine.perform_message performed
    have receives := Engine.receive_receives answered
    obtain ⟨items, _, holds, usable, fits⟩ := run.ready reordered
    exact ⟨fun _ => receives.peers_other, fun _ => receives.concludes.types_other,
      receives.touches holds usable fits, receives.restarts holds usable fits⟩

/-- In a store with room for a single entry the second message evicts the first one. -/
theorem footprint_crowded : ∃ (past : List (Step Float)) (e : Engine Float)
    (reply : Reply Float Answer) (key : Key) (entry : Entry Float),
    Run (crowdedConfig (some 1)) 0 past e ∧ e.Reordered e ∧
      e.perform 1 (.message ⟨"b", "t", "", .empty⟩) = .ok reply ∧
      e.store.get? (e.keyOf ⟨"b", "t", "", .empty⟩) = none ∧ e.store.size = e.store.capacity ∧
      key ≠ e.keyOf ⟨"b", "t", "", .empty⟩ ∧ e.store.get? key = some entry ∧
      reply.engine.store.get? key = none := by
  let first : Message := ⟨"a", "t", "", .empty⟩
  let second : Message := ⟨"b", "t", "", .empty⟩
  have usable : (crowdedConfig (some 1)).problem? = none := by decide +kernel
  have reaches : (Engine.assemble (crowdedConfig (some 1)) (by decide) 0).engine.reaches
      [(0, .message first)] (fun e => (e.perform 1 (.message second)).toOption.any fun reply =>
        e.keyOf first ≠ e.keyOf second && e.store.contains (e.keyOf first) &&
          !reply.engine.store.contains (e.keyOf first)) = true := by
    decide +kernel
  obtain ⟨past, e, run, _, _, answered⟩ := Run.of_reaches usable reaches
  cases performed : e.perform 1 (.message second) with
  | error => simp [performed, Except.toOption] at answered
  | ok reply =>
    simp only [performed, Except.toOption, Option.any_some, Bool.and_eq_true, decide_eq_true_eq,
      Bool.not_eq_true'] at answered
    obtain ⟨⟨apart, stored⟩, gone⟩ := answered
    have print := (run.footprint (.refl e) 1 second).2 reply performed
    rcases print.store.others with same | ⟨absent, full, victim, entry, other, own, left, _⟩
    · rw [Store.contains, same _ apart] at gone
      rw [Store.contains, gone] at stored
      cases stored
    · exact ⟨past, e, reply, victim, entry, run, .refl e, performed, absent, full, other, own, left⟩

end GossipGate
