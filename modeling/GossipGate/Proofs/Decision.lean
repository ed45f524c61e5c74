import GossipGate.Proofs.Bookkeeping

namespace GossipGate

variable {α : Type} [Scalar α]

/-- Counting an arrival changes nothing but what tells about its time. -/
theorem Traffic.arrive_fst {t : Traffic α} {now : Nat} {rate : α} {arrived : Traffic α × Option α}
    (counted : t.arrive now rate = .ok arrived) : ∃ averageGap lastSeen velocity,
      arrived.1 = { t with averageGap, lastSeen, velocity } := by
  unfold Traffic.arrive at counted
  cases last : t.lastSeen with
  | none =>
    rw [last] at counted
    cases counted
    exact ⟨_, _, _, rfl⟩
  | some previous =>
    rw [last] at counted
    obtain ⟨average, _, counts⟩ := bind_eq_ok counted
    cases counts
    exact ⟨_, _, _, rfl⟩

theorem Traffic.recordSize_eq (t : Traffic α) (size : Nat) (rate : α) :
    ∃ averageSize, t.recordSize size rate = { t with averageSize } := by
  unfold Traffic.recordSize
  split <;> exact ⟨_, rfl⟩

/-- The reply with some events before its own. -/
def Reply.after {β : Type} (r : Reply α β) (events : List (Event α)) : Reply α β :=
  { r with events := events ++ r.events }

namespace Engine

variable {e : Engine α} {now : Nat} {m : Message} {a : Arrival α}

/-- Whether peers are tracked and scored and the sender of a message is on the blacklist. -/
def blocks (e : Engine α) (m : Message) : Bool :=
  e.profile.peerTracking && !m.peer.isEmpty && e.profile.reputationScoring &&
    (e.peers.get? m.peer).any Peer.blacklisted

/-- The key under which a message is tracked by the present profile. -/
def keyOf (e : Engine α) (m : Message) : Key :=
  .build e.profile m.hash m.messageType m.peer m.network

/-- The TTL in force for a message. -/
def ttlOf (e : Engine α) (m : Message) : Duration :=
  e.ttlFor (e.trafficRecord m.messageType) m.messageType m.network

/-- The key that a message asks the store for, where it has a hash and its sender is not blocked. -/
def asked? (e : Engine α) (m : Message) : Option Key :=
  if m.hash.isEmpty || e.blocks m then none else some (e.keyOf m)

/-- What the store makes of a message that asks it. -/
def admission? (e : Engine α) (now : Nat) (m : Message) : Option (Admission α) :=
  (e.asked? m).bind fun _ => (e.arrive now m).toOption.map fun a => lookUp now a m

/-- The events of the entries that an admission evicted. -/
def evictions (e : Engine α) (admission : Admission α) : List (Event α) :=
  admission.evicted.map (.evicted e.tier (.ofProfile e.profile))

theorem meet_fst (peer : String) :
    (e.meet peer now).1 = { e with peers := (e.meet peer now).1.peers } := by
  unfold meet
  split <;> rfl

theorem judge_fst (peer : String) (duplicate : Bool) :
    (e.judge peer duplicate).1 = { e with peers := (e.judge peer duplicate).1.peers } := by
  unfold judge
  split <;> rfl

theorem peerRecord_blacklisted (peer : String) :
    (e.peerRecord peer now).blacklisted = (e.peers.get? peer).any Peer.blacklisted := by
  unfold peerRecord
  cases e.peers.get? peer with
  | some known => rfl
  | none =>
    dsimp only
    split <;> rfl

theorem meet_blacklisted (peer : String) : (e.meet peer now).2.any Peer.blacklisted =
    (e.profile.peerTracking && !peer.isEmpty && (e.peers.get? peer).any Peer.blacklisted) := by
  unfold meet
  by_cases tracked : (e.profile.peerTracking && !peer.isEmpty) = true
  · simp only [tracked, if_true, Option.any_some, Bool.true_and]
    exact peerRecord_blacklisted peer
  · simp only [tracked, Bool.false_eq_true, if_false, Option.any_none, Bool.false_and]

/-- What is measured of a message changes the counts of its type and its averages, not its TTL. -/
theorem measure_fst {blocked : Bool} {measured : Traffic α × Option α}
    (counted : e.measure now m blocked = .ok measured) :
    ∃ duplicateRate averageGap lastSeen velocity averageSize, measured.1 =
      { e.trafficRecord m.messageType with
        seen := (e.trafficRecord m.messageType).seen + 1
        duplicates := (e.trafficRecord m.messageType).duplicates + if blocked then 1 else 0
        duplicateRate, averageGap, lastSeen, velocity, averageSize } := by
  obtain ⟨averageSize, sized⟩ := (e.trafficRecord m.messageType).countSeen.recordSize_eq
    m.metadata.bytes e.tuning.learningRate
  unfold measure at counted
  simp only [sized] at counted
  cases blocked with
  | true =>
    simp only [if_true] at counted
    cases counted
    exact ⟨_, _, _, _, _, rfl⟩
  | false =>
    simp only [Bool.false_eq_true, if_false] at counted
    obtain ⟨averageGap, lastSeen, velocity, same⟩ := Traffic.arrive_fst counted
    exact ⟨_, averageGap, lastSeen, velocity, averageSize, same⟩

theorem measure_ttl {blocked : Bool} {measured : Traffic α × Option α}
    (counted : e.measure now m blocked = .ok measured) :
    measured.1.ttl = (e.trafficRecord m.messageType).ttl ∧
      measured.1.adapted = (e.trafficRecord m.messageType).adapted := by
  obtain ⟨_, _, _, _, _, same⟩ := measure_fst counted
  rw [same]
  exact ⟨rfl, rfl⟩

end Engine

/-- What the bookkeeping of a message leaves for the decision. -/
structure Arrival.Follows (a : Arrival α) (e : Engine α) (m : Message) : Prop where
  store : a.engine.store = e.store
  profile : a.engine.profile = e.profile
  blocked : a.isBlocked = e.blocks m
  key : (a.engine.sighting a m).key = e.keyOf m
  ttl : (a.engine.sighting a m).ttl = e.ttlOf m
  measured : ∃ velocity : Option α,
    a.events = velocity.toList.map (.velocityMeasured e.tier m.messageType)

namespace Engine

variable {e : Engine α} {now : Nat} {m : Message} {a : Arrival α}

theorem arrive_follows (arrived : e.arrive now m = .ok a) : a.Follows e m := by
  have store := arrive_store arrived
  have fst := @meet_fst α _ { e with seen := e.seen + 1 } now m.peer
  have snd := @meet_blacklisted α _ { e with seen := e.seen + 1 } now m.peer
  unfold arrive at arrived
  generalize ({ e with seen := e.seen + 1 } : Engine α).meet m.peer now = met at *
  obtain ⟨counted, record⟩ := met
  obtain ⟨result, measured, reached⟩ := bind_eq_ok arrived
  cases reached
  simp only at fst snd measured
  rw [fst] at measured
  have ttl := measure_ttl measured
  have profile : counted.profile = e.profile := by rw [fst]
  have tuning : counted.tuning = e.tuning := by rw [fst]
  have networks : counted.networks = e.networks := by rw [fst]
  refine ⟨store, profile, ?_, ?_, ?_, result.2, rfl⟩
  · show (if e.profile.reputationScoring then record else none).any Peer.blacklisted = e.blocks m
    by_cases scored : e.profile.reputationScoring = true
    · simp only [scored, if_true, snd, blocks, Bool.and_true]
    · simp only [scored, Bool.false_eq_true, if_false, Option.any_none, blocks, Bool.and_false,
        Bool.false_and]
  · show Key.build counted.profile _ _ _ _ = e.keyOf m
    rw [profile, keyOf]
  · simp only [sighting, ttlFor, ttlOf, tuning, networks, ttl]
    rfl

/-- The ways in which a message is answered. -/
inductive Receives (e : Engine α) (now : Nat) (m : Message) : Reply α Bool → Prop
  | nameless : m.hash.isEmpty = true → Receives e now m ⟨e, false, []⟩
  | blocked {arrival} : m.hash.isEmpty = false → e.blocks m = true →
      e.arrive now m = .ok arrival → Receives e now m (block arrival m)
  | suppressed {arrival} : m.hash.isEmpty = false → e.blocks m = false →
      e.arrive now m = .ok arrival → (lookUp now arrival m).outcome = .duplicate →
      Receives e now m
        (((arrival.engine.withStore (lookUp now arrival m).store).suppress arrival m).after
          (arrival.events ++ arrival.engine.evictions (lookUp now arrival m)))
  | passed {arrival reply} : m.hash.isEmpty = false → e.blocks m = false →
      e.arrive now m = .ok arrival → (lookUp now arrival m).outcome ≠ .duplicate →
      (arrival.engine.withStore (lookUp now arrival m).store).pass now arrival m
        (lookUp now arrival m).outcome = .ok reply →
      Receives e now m
        (reply.after (arrival.events ++ arrival.engine.evictions (lookUp now arrival m)))

theorem resolve_duplicate (duplicate : (lookUp now a m).outcome = .duplicate) :
    resolve now a m = .ok (((a.engine.withStore (lookUp now a m).store).suppress a m).after
      (a.events ++ a.engine.evictions (lookUp now a m))) := by
  unfold resolve
  simp only [duplicate, if_true]
  rfl

theorem resolve_other (other : (lookUp now a m).outcome ≠ .duplicate) :
    resolve now a m = ((a.engine.withStore (lookUp now a m).store).pass now a m
      (lookUp now a m).outcome).map fun r =>
        r.after (a.events ++ a.engine.evictions (lookUp now a m)) := by
  unfold resolve
  simp only [other, if_false]
  rfl

theorem receive_receives {reply : Reply α Bool} (answered : e.receive now m = .ok reply) :
    e.Receives now m reply := by
  unfold receive at answered
  cases named : m.hash.isEmpty with
  | true =>
    rw [named, if_pos rfl] at answered
    cases answered
    exact .nameless named
  | false =>
    simp only [named, Bool.false_eq_true, if_false] at answered
    obtain ⟨a, arrived, decision⟩ := bind_eq_ok answered
    rw [(arrive_follows arrived).blocked] at decision
    cases decided : e.blocks m with
    | true =>
      rw [decided, if_pos rfl] at decision
      cases decision
      exact .blocked named decided arrived
    | false =>
      simp only [decided, Bool.false_eq_true, if_false] at decision
      by_cases duplicate : (lookUp now a m).outcome = .duplicate
      · rw [resolve_duplicate duplicate] at decision
        cases decision
        exact .suppressed named decided arrived duplicate
      · rw [resolve_other duplicate] at decision
        obtain ⟨last, passed, rfl⟩ := map_eq_ok decision
        exact .passed named decided arrived duplicate passed

theorem receive_blocked (named : m.hash.isEmpty = false) (blocked : e.blocks m = true)
    (arrived : e.arrive now m = .ok a) : e.receive now m = .ok (block a m) := by
  have decided : a.isBlocked = true := (arrive_follows arrived).blocked.trans blocked
  unfold receive
  simp only [named, Bool.false_eq_true, if_false, arrived, bind, Except.bind, decided, if_true]
  rfl

theorem receive_resolves (named : m.hash.isEmpty = false) (unblocked : e.blocks m = false)
    (arrived : e.arrive now m = .ok a) : e.receive now m = resolve now a m := by
  have decided : a.isBlocked = false := (arrive_follows arrived).blocked.trans unblocked
  unfold receive
  simp only [named, Bool.false_eq_true, if_false, arrived, bind, Except.bind, decided]

/-- Bookkeeping for a blocked message measures nothing that could fault. -/
theorem arrive_of_blocks (blocked : e.blocks m = true) : ∃ a, e.arrive now m = .ok a := by
  have snd := @meet_blacklisted α _ { e with seen := e.seen + 1 } now m.peer
  have scored : e.profile.reputationScoring = true := by
    simp only [blocks, Bool.and_eq_true] at blocked
    exact blocked.1.2
  have listed : (e.profile.peerTracking && !m.peer.isEmpty &&
      (e.peers.get? m.peer).any Peer.blacklisted) = true := by
    simp only [blocks, Bool.and_eq_true] at blocked ⊢
    exact ⟨blocked.1.1, blocked.2⟩
  unfold arrive
  simp only [scored, if_true, snd, listed, measure]
  exact ⟨_, rfl⟩

/-- Only a message whose arrival cannot be measured, or one that passes, can fault. -/
theorem receive_error {fault : Fault} (faulted : e.receive now m = .error fault) :
    e.blocks m = false ∧ (e.arrive now m = .error fault ∨
      ∃ a, e.arrive now m = .ok a ∧ (lookUp now a m).outcome ≠ .duplicate) := by
  unfold receive at faulted
  split at faulted
  · cases faulted
  simp only [bind, Except.bind] at faulted
  cases arrived : e.arrive now m with
  | error other =>
    simp only [arrived] at faulted
    cases decided : e.blocks m with
    | true =>
      obtain ⟨a, measured⟩ : ∃ a, e.arrive now m = .ok a := arrive_of_blocks decided
      rw [arrived] at measured
      cases measured
    | false => exact ⟨rfl, Or.inl (congrArg _ (Except.error.inj faulted))⟩
  | ok a =>
    have blocked := (arrive_follows arrived).blocked
    simp only [arrived, blocked] at faulted
    cases decided : e.blocks m with
    | true => simp [decided, pure, Except.pure] at faulted
    | false =>
      refine ⟨rfl, Or.inr ⟨a, rfl, fun duplicate => ?_⟩⟩
      simp [decided, resolve_duplicate duplicate] at faulted

theorem pass_value {outcome : Outcome} {reply : Reply α Bool}
    (passed : e.pass now a m outcome = .ok reply) : reply.value = false := by
  obtain ⟨adjusted, _, last⟩ := bind_eq_ok passed
  cases last
  rfl

theorem suppress_value : (e.suppress a m).value = true := rfl

/-- A message that does not ask the store leaves it alone and is suppressed by the blacklist
only. -/
theorem Receives.unasked {reply : Reply α Bool} (receives : e.Receives now m reply)
    (nothing : e.asked? m = none) : reply.engine.store = e.store ∧
      reply.value = (!m.hash.isEmpty && e.blocks m) ∧ e.admission? now m = none := by
  have absent : e.admission? now m = none := by simp only [admission?, nothing, Option.bind_none]
  cases receives with
  | nameless named => exact ⟨rfl, by simp [named], absent⟩
  | blocked named blocked arrived =>
    exact ⟨arrive_store arrived, by simp [block, named, blocked], absent⟩
  | suppressed named unblocked | passed named unblocked =>
    simp only [asked?, named, unblocked, Bool.or_self, Bool.false_eq_true, if_false, reduceCtorEq]
      at nothing

omit [Scalar α] in
theorem asked?_eq_some {key : Key} (asks : e.asked? m = some key) :
    m.hash.isEmpty = false ∧ key = e.keyOf m := by
  unfold asked? at asks
  split at asks
  · cases asks
  · rename_i asking
    rw [Bool.or_eq_true, not_or, Bool.not_eq_true] at asking
    exact ⟨asking.1, (Option.some.inj asks).symm⟩

theorem admission?_eq (named : m.hash.isEmpty = false) (unblocked : e.blocks m = false)
    (arrived : e.arrive now m = .ok a) : e.admission? now m = some (lookUp now a m) := by
  simp only [admission?, asked?, named, unblocked, Bool.or_self, Bool.false_eq_true, if_false,
    Option.bind_some, arrived, Except.toOption, Option.map_some]

/-- A message that asks the store is suppressed exactly where a live duplicate is stored. -/
theorem Receives.asked {reply : Reply α Bool} (receives : e.Receives now m reply) {key : Key}
    (asks : e.asked? m = some key) : ∃ a, e.arrive now m = .ok a ∧
      e.admission? now m = some (lookUp now a m) ∧
      reply.engine.store = (lookUp now a m).store ∧
      (reply.value = true ↔ (lookUp now a m).outcome = .duplicate) := by
  cases receives with
  | nameless named => simp [asked?, named] at asks
  | blocked named blocked _ => simp [asked?, blocked] at asks
  | suppressed named unblocked arrived duplicate =>
    exact ⟨_, arrived, admission?_eq named unblocked arrived, suppress_store _,
      by simp [duplicate, Reply.after, suppress_value]⟩
  | passed named unblocked arrived other passed =>
    refine ⟨_, arrived, admission?_eq named unblocked arrived, pass_store passed, ?_⟩
    simp [other, Reply.after, pass_value passed]

theorem perform_message {reply : Reply α Answer}
    (performed : e.perform now (.message m) = .ok reply) :
    ∃ answer, e.receive now m = .ok answer ∧ answer.map .verdict = reply :=
  map_eq_ok performed

theorem perform_message_error {fault : Fault}
    (performed : e.perform now (.message m) = .error fault) : e.receive now m = .error fault := by
  unfold perform at performed
  cases answered : e.receive now m with
  | error =>
    simp only [answered, Except.map] at performed
    rw [Except.error.inj performed]
  | ok answer => simp only [answered, Except.map, reduceCtorEq] at performed

end Engine

end GossipGate
