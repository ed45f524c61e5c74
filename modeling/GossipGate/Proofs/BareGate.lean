import GossipGate.Proofs.Adjustment
import GossipGate.Proofs.BareStore

namespace GossipGate

theorem Metadata.network_nonempty (metadata : Metadata) : metadata.network.isEmpty = false := by
  unfold network
  split
  · split
    · rfl
    · rename_i named
      exact Bool.eq_false_iff.2 named
  · rfl

/-- A message without its sender and without what its metadata tell beyond the network. -/
def Message.bare (m : Message) : Message :=
  { m with peer := "", metadata := { Metadata.empty with source := some m.network } }

theorem Message.network_bare (m : Message) : m.bare.network = m.network := by
  have named : m.network.isEmpty = false := m.metadata.network_nonempty
  show (if m.network.isEmpty then "unknown" else m.network) = m.network
  rw [named]
  rfl

variable {α : Type} [Scalar α]

namespace Traffic

/-- The record of a type without the sizes of its messages. -/
def bare (t : Traffic α) : Traffic α := { t with averageSize := 0.0 }

theorem recordSize_bare (t : Traffic α) (size : Nat) (rate : α) :
    (t.recordSize size rate).bare = t.bare := by
  unfold recordSize
  split <;> rfl

theorem nextGap_bare (t : Traffic α) (gap : Duration) (rate : α) :
    t.bare.nextGap gap rate = t.nextGap gap rate := rfl

theorem arrive_bare (t : Traffic α) (now : Nat) (rate : α) :
    t.bare.arrive now rate =
      (t.arrive now rate).map fun arrived => (arrived.1.bare, arrived.2) := by
  have lastSeen : t.bare.lastSeen = t.lastSeen := rfl
  unfold arrive
  simp only [nextGap_bare, lastSeen]
  cases t.lastSeen with
  | none => rfl
  | some previous =>
    dsimp only
    cases t.nextGap (.ofMillis (now - previous)) rate <;> rfl

end Traffic

/-- The event without what only the sender of an entry told. -/
def Event.bare : Event α → Event α
  | .evicted tier policy entry => .evicted tier policy entry.bare
  | event => event

def Sighting.bare (s : Sighting α) : Sighting α := { s with message := s.message.bare }

omit [Scalar α] in
theorem Sighting.entry_bare (s : Sighting α) (now : Nat) :
    s.bare.entry now = (s.entry now).bare := by
  have network := s.message.network_bare
  unfold Sighting.entry Entry.bare
  simp only [Sighting.bare, network]
  rfl

def Admission.bare (admission : Admission α) : Admission α :=
  ⟨admission.store.bare, admission.outcome, admission.evicted.map Entry.bare⟩

/-- A gate without what senders and the sizes of messages left in it. -/
def Engine.bare (e : Engine α) : Engine α :=
  { e with
    store := e.store.bare
    traffic := e.traffic.mapValues fun _ => Traffic.bare
    peers := .empty }

def Arrival.bare (a : Arrival α) : Arrival α :=
  ⟨a.engine.bare, none, a.traffic.bare, a.events.map Event.bare⟩

def Reply.bare {β : Type} (r : Reply α β) : Reply α β :=
  ⟨r.engine.bare, r.value, r.events.map Event.bare⟩

namespace Engine

variable {e : Engine α} {now : Nat} {m : Message}

theorem trafficRecord_bare (e : Engine α) (messageType : String) :
    e.bare.trafficRecord messageType = (e.trafficRecord messageType).bare := by
  show ((e.traffic.mapValues fun _ => Traffic.bare).get? messageType).getD _ = _
  rw [Table.get?_mapValues]
  unfold trafficRecord
  cases e.traffic.get? messageType <;> rfl

theorem measure_bare (e : Engine α) (now : Nat) (m : Message) (blocked : Bool) :
    e.bare.measure now m.bare blocked =
      (e.measure now m blocked).map fun measured => (measured.1.bare, measured.2) := by
  have sized := (e.trafficRecord m.messageType).countSeen.recordSize_bare m.metadata.bytes
    e.tuning.learningRate
  have own : ((e.bare.trafficRecord m.bare.messageType).countSeen.recordSize m.bare.metadata.bytes
      e.bare.tuning.learningRate) = ((e.trafficRecord m.messageType).countSeen.recordSize
        m.metadata.bytes e.tuning.learningRate).bare := by
    rw [sized, show m.bare.messageType = m.messageType from rfl, trafficRecord_bare]
    rfl
  unfold measure
  dsimp only
  rw [own]
  cases blocked with
  | true => rfl
  | false => exact Traffic.arrive_bare _ _ _

section Free

variable (free : e.profile = .ofTier .free)

include free

theorem meet_free (now : Nat) (peer : String) : e.meet peer now = (e, none) := by
  unfold meet
  simp [free, Profile.ofTier]

/-- The bookkeeping of a message knows of no sender. -/
theorem arrive_free (now : Nat) (m : Message) : e.arrive now m =
    (e.measure now m false).map fun measured =>
      { engine :=
          { e with
            seen := e.seen + 1
            traffic := e.traffic.insert m.messageType measured.1 }
        scorer := none
        traffic := measured.1
        events := measured.2.toList.map (.velocityMeasured e.tier m.messageType) } := by
  have met : ({ e with seen := e.seen + 1 } : Engine α).meet m.peer now =
      ({ e with seen := e.seen + 1 }, none) :=
    meet_free (e := { e with seen := e.seen + 1 }) free now m.peer
  unfold arrive
  simp only [met, ite_self, Option.any_none]
  show (e.measure now m false >>= fun measured => _) = _
  cases e.measure now m false <;> rfl

theorem arrive_unscored {a : Arrival α} (arrived : e.arrive now m = .ok a) : a.scorer = none := by
  rw [arrive_free free] at arrived
  obtain ⟨_, _, rfl⟩ := map_eq_ok arrived
  rfl

theorem arrive_bare (now : Nat) (m : Message) :
    e.bare.arrive now m.bare = (e.arrive now m).map Arrival.bare := by
  rw [arrive_free free, arrive_free (e := e.bare) free, measure_bare]
  cases e.measure now m false with
  | error => rfl
  | ok measured =>
    obtain ⟨t, velocity⟩ := measured
    have inserted : (e.traffic.insert m.messageType t).mapValues (fun _ => Traffic.bare) =
        (e.traffic.mapValues fun _ => Traffic.bare).insert m.messageType t.bare :=
      Table.mapValues_insert _ _ _ _
    simp only [Except.map, Arrival.bare, bare, inserted, List.map_map]
    rfl

theorem evictOne_free (now : Nat) (store : Store α) : e.evictOne now store = store.evictOldest := by
  unfold evictOne EvictionPolicy.ofProfile
  simp [free, Profile.ofTier]

theorem evictOne_bare (now : Nat) (store : Store α) :
    e.bare.evictOne now store.bare = (e.evictOne now store).bare := by
  rw [evictOne_free free, evictOne_free (e := e.bare) free]
  exact store.evictOldest_bare

theorem shrink_bare (now : Nat) (store : Store α) : e.bare.shrink now store.bare =
    ((e.shrink now store).1.bare, (e.shrink now store).2.map Entry.bare) :=
  shrink_mapEntries (evictOne_bare free now) store

theorem sightAgain_free (now : Nat) (entry : Entry α) :
    e.sightAgain now entry = entry.touch now := by
  unfold sightAgain
  simp [free, Profile.ofTier]

theorem sighting_bare (a : Arrival α) (m : Message) :
    e.bare.sighting a.bare m.bare = (e.sighting a m).bare := by
  have ttl : e.bare.ttlFor a.bare.traffic m.bare.messageType m.network =
      e.ttlFor a.traffic m.messageType m.network := rfl
  unfold sighting Sighting.bare
  rw [m.network_bare, ttl]
  simp [bare, free, Profile.ofTier, Key.build, entryPriority, Message.bare]

theorem track_bare (now : Nat) (seen : Sighting α) (attempts : Nat) (store : Store α) :
    e.bare.track now seen.bare attempts store.bare = (e.track now seen attempts store).bare := by
  have sighted : ∀ entry : Entry α, (e.sightAgain now entry).bare =
      e.bare.sightAgain now entry.bare := by
    intro entry
    rw [sightAgain_free free, sightAgain_free (e := e.bare) free]
    rfl
  have mirrors : Mirrors Entry.bare e now seen e.bare now seen.bare :=
    { unnumbered := Entry.unnumbered_bare
      key := rfl
      entry := seen.entry_bare now
      live := fun _ => rfl
      again := sighted
      restarted := fun _ => rfl
      evicts := evictOne_bare free now }
  exact mirrors.track attempts store

theorem adjustTtl_free : e.adjustTtl =
    if e.seen < 100 then .ok (e, [])
    else
      (TtlChange.step e.globalTtl (Scalar.ratio e.duplicates e.seen : α)
        e.tuning.window.toTtlBounds).map fun change =>
          ({ e with
              ttlMillis := change.ttl.millisWord
              traffic := e.traffic.mapValues (follow [] change.ttl)
              seen := e.seen / 2
              duplicates := e.duplicates / 2 },
            [.ttlAdjusted e.tier (Scalar.ratio e.duplicates e.seen) e.globalTtl change]) := by
  have unlearned : e.profile.adaptiveLearning = false := by
    rw [free]
    rfl
  have steps : e.control = TtlChange.step e.globalTtl (Scalar.ratio e.duplicates e.seen : α)
      e.tuning.window.toTtlBounds := by
    unfold control
    rw [unlearned]
    rfl
  rw [adjustTtl_eq, steps]
  simp only [learn_unadaptive unlearned]
  split
  · rfl
  · cases TtlChange.step e.globalTtl (Scalar.ratio e.duplicates e.seen : α)
      e.tuning.window.toTtlBounds <;> rfl

theorem adjustTtl_bare : e.bare.adjustTtl =
    e.adjustTtl.map fun result => (result.1.bare, result.2.map Event.bare) := by
  have followed : ∀ global : Duration,
      (e.traffic.mapValues fun _ => Traffic.bare).mapValues (follow [] global) =
        (e.traffic.mapValues (follow [] global)).mapValues fun _ => Traffic.bare := by
    intro global
    refine (Table.mapValues_mapValues fun messageType t => ?_).symm
    simp only [follow, List.lookup_nil]
    show _ = if t.adapted then _ else _
    split <;> rfl
  rw [adjustTtl_free free, adjustTtl_free (e := e.bare) free]
  show (if e.seen < 100 then _ else (TtlChange.step e.globalTtl
    (Scalar.ratio e.duplicates e.seen : α) e.tuning.window.toTtlBounds).map _) = _
  split
  · rfl
  · cases TtlChange.step e.globalTtl (Scalar.ratio e.duplicates e.seen : α)
      e.tuning.window.toTtlBounds with
    | error => rfl
    | ok change =>
      simp only [Except.map, bare, followed]
      rfl

theorem adjustIfDue_bare (now : Nat) : e.bare.adjustIfDue now =
    (e.adjustIfDue now).map fun result => (result.1.bare, result.2.map Event.bare) := by
  unfold adjustIfDue
  show (if now - e.lastAdjust < e.tuning.adjustEvery then _ else
    ({ e with lastAdjust := now } : Engine α).bare.adjustTtl) = _
  rw [adjustTtl_bare (e := { e with lastAdjust := now }) free]
  split <;> rfl

/-- A message that passes has no consequences but an adjustment. -/
theorem pass_free {a : Arrival α} (unscored : a.scorer = none) (now : Nat) (m : Message)
    (outcome : Outcome) : e.pass now a m outcome =
      (e.adjustIfDue now).map fun adjusted => ⟨adjusted.1, false,
        (if outcome = .dropped then [.saturated m.messageType] else []) ++ adjusted.2⟩ := by
  have judged : (if outcome = .inserted then e.judgeCaller a m false else (e, [])) = (e, []) := by
    simp [judgeCaller, unscored]
  unfold pass
  simp only [judged]
  cases adjusted : e.adjustIfDue now with
  | error => rfl
  | ok result =>
    have profile := (adjustIfDue_profile adjusted).trans free
    have quiet : result.1.anomalies m = [] := by
      unfold anomalies
      simp [profile, Profile.ofTier]
    simp only [bind, Except.bind, quiet]
    simp [pure, Except.pure, Except.map]

theorem pass_bare {a : Arrival α} (unscored : a.scorer = none) (now : Nat) (m : Message)
    (outcome : Outcome) : e.bare.pass now a.bare m.bare outcome =
      (e.pass now a m outcome).map Reply.bare := by
  rw [pass_free free unscored, pass_free (e := e.bare) free (a := a.bare) rfl,
    adjustIfDue_bare free]
  cases e.adjustIfDue now with
  | error => rfl
  | ok result =>
    simp only [Except.map, Reply.bare, List.map_append]
    split <;> rfl

end Free

theorem suppress_bare (e : Engine α) {a : Arrival α} (unscored : a.scorer = none) (m : Message) :
    e.bare.suppress a.bare m.bare = (e.suppress a m).bare := by
  have counted : (e.traffic.modify m.messageType Traffic.countDuplicate).mapValues
      (fun _ => Traffic.bare) =
        (e.traffic.mapValues fun _ => Traffic.bare).modify m.messageType Traffic.countDuplicate :=
    Table.mapValues_modify (f := Traffic.bare) (g := Traffic.countDuplicate) (fun _ => rfl) _
  unfold suppress judgeCaller
  simp only [unscored, show a.bare.scorer = none from rfl, Option.isSome_none, Bool.false_eq_true,
    if_false]
  simp only [Reply.bare, bare, counted]
  rfl

theorem lookUp_bare {a : Arrival α} (free : a.engine.profile = .ofTier .free) (now : Nat)
    (m : Message) : lookUp now a.bare m.bare = (lookUp now a m).bare := by
  unfold lookUp
  show a.engine.bare.track now (a.engine.bare.sighting a.bare m.bare) maxAttempts
    a.engine.store.bare = _
  rw [sighting_bare free, track_bare free]

theorem resolve_bare {a : Arrival α} (free : a.engine.profile = .ofTier .free)
    (unscored : a.scorer = none) (now : Nat) (m : Message) :
    resolve now a.bare m.bare = (resolve now a m).map Reply.bare := by
  have looked := lookUp_bare free now m
  have events : a.bare.events ++ a.bare.engine.evictions (lookUp now a.bare m.bare) =
      (a.events ++ a.engine.evictions (lookUp now a m)).map Event.bare := by
    rw [looked, List.map_append]
    unfold evictions
    simp only [Admission.bare, List.map_map]
    rfl
  have admitted : a.bare.engine.withStore (lookUp now a.bare m.bare).store =
      (a.engine.withStore (lookUp now a m).store).bare := by
    rw [looked]
    rfl
  have outcome : (lookUp now a.bare m.bare).outcome = (lookUp now a m).outcome := by
    rw [looked]
    rfl
  by_cases duplicate : (lookUp now a m).outcome = .duplicate
  · rw [resolve_duplicate duplicate, resolve_duplicate (outcome.trans duplicate), events, admitted,
      suppress_bare _ unscored]
    simp [Except.map, Reply.after, Reply.bare]
  · have other : (lookUp now a.bare m.bare).outcome ≠ .duplicate := by
      rw [outcome]
      exact duplicate
    rw [resolve_other duplicate, resolve_other other, events, admitted, outcome,
      pass_bare (e := a.engine.withStore (lookUp now a m).store) free unscored]
    cases (a.engine.withStore (lookUp now a m).store).pass now a m (lookUp now a m).outcome with
    | error => rfl
    | ok reply => simp [Except.map, Reply.after, Reply.bare]

/-- The FREE tier decides about a message without its sender, its size and its properties. -/
theorem receive_bare (free : e.profile = .ofTier .free) (now : Nat) (m : Message) :
    e.bare.receive now m.bare = (e.receive now m).map Reply.bare := by
  unfold receive
  show (if m.hash.isEmpty then _ else e.bare.arrive now m.bare >>= _) = _
  split
  · rfl
  rw [arrive_bare free]
  cases arrived : e.arrive now m with
  | error => rfl
  | ok a =>
    have profile : a.engine.profile = .ofTier .free := (arrive_follows arrived).profile.trans free
    have unscored := arrive_unscored free arrived
    have unblocked : a.isBlocked = false ∧ a.bare.isBlocked = false := by
      unfold Arrival.isBlocked
      rw [unscored]
      exact ⟨rfl, rfl⟩
    simp only [Except.map, bind, Except.bind, unblocked, Bool.false_eq_true, if_false]
    exact resolve_bare profile unscored now m

/-- A cleanup goes by the TTL of an entry alone. -/
theorem isKept_free (free : e.profile = .ofTier .free) (now : Nat) (entry : Entry α) :
    e.isKept now entry =
      decide ((Scalar.ofNat (now - entry.lastSeen) : α) ≤
        Scalar.ofNat (e.entryTtl entry).millis) := by
  unfold isKept retentionMillis ownerScore?
  simp [free, Profile.ofTier]

theorem entryTtl_bare (e : Engine α) (entry : Entry α) :
    e.bare.entryTtl entry.bare = e.entryTtl entry := by
  have found : e.bare.traffic.get? entry.bare.messageType =
      (e.traffic.get? entry.messageType).map Traffic.bare :=
    e.traffic.get?_mapValues (fun _ => Traffic.bare) entry.messageType
  unfold entryTtl
  rw [found]
  cases e.traffic.get? entry.messageType <;> rfl

theorem isKept_bare (free : e.profile = .ofTier .free) (now : Nat) (entry : Entry α) :
    e.bare.isKept now entry.bare = e.isKept now entry := by
  rw [isKept_free free, isKept_free (e := e.bare) free, entryTtl_bare]
  rfl

theorem cleanup_nobody (nobody : e.peers = .empty) (now : Nat) : e.cleanup now =
    let kept := e.store.retain (e.isKept now)
    ⟨e.withStore kept.1, ⟨kept.2, 0⟩, if CleanupCounts.isZero ⟨kept.2, 0⟩ then []
      else [.cleaned e.tier kept.2 kept.1.size 0 0]⟩ := by
  obtain ⟨⟩ := e
  cases nobody
  rfl

theorem cleanup_bare (free : e.profile = .ofTier .free) (nobody : e.peers = .empty) (now : Nat) :
    e.bare.cleanup now = (e.cleanup now).bare := by
  have kept : e.bare.store.retain (e.bare.isKept now) = _ :=
    Store.retain_bare (isKept_bare free now) e.store
  rw [cleanup_nobody nobody, cleanup_nobody (e := e.bare) rfl, kept]
  unfold Reply.bare
  dsimp only
  split <;> rfl

theorem close_bare (nobody : e.peers = .empty) : e.bare.close = e.close.bare := by
  unfold close
  simp only [nobody, show e.bare.peers = .empty from rfl]
  unfold Reply.bare
  show Reply.mk _ _ (if e.closed then _ else _) =
    Reply.mk _ _ (List.map _ (if e.closed then _ else _))
  split <;> rfl

theorem shrunk_bare {tier : Tier} (unpaid : tier = .free) (e : Engine α) (now : Nat) :
    e.bare.shrunk now tier =
      ((e.shrunk now tier).1.bare, (e.shrunk now tier).2.map Entry.bare) :=
  shrink_bare (e := { e with profile := .ofTier tier }) (by rw [unpaid]) now
    (e.store.setCapacity tier.capacity)

theorem retiered_bare (e : Engine α) (requested : String) (shrunk : Store α × List (Entry α)) :
    e.bare.retiered requested (shrunk.1.bare, shrunk.2.map Entry.bare) =
      (e.retiered requested shrunk).bare := by
  have unknown : (Event.ofTierRequest requested : List (Event α)).map Event.bare =
      Event.ofTierRequest requested := by
    unfold Event.ofTierRequest
    split <;> rfl
  unfold retiered Reply.bare
  simp only [List.map_append, List.map_map, unknown]
  rfl

theorem setTier_bare {requested : String} (stays : Tier.serving requested = .free) (e : Engine α)
    (now : Nat) : e.bare.setTier now requested = (e.setTier now requested).bare := by
  rw [setTier_eq, setTier_eq, shrunk_bare stays, retiered_bare]

end Engine

def Call.bare : Call → Call
  | .message m => .message m.bare
  | call => call

def Call.isActivity : Call → Bool
  | .activity _ => true
  | _ => false

/-- Whether a call leaves the gate in a tier. -/
def Call.Stays (tier : Tier) : Call → Prop
  | .setTier requested => Tier.serving requested = tier
  | _ => True

theorem Call.stays_bare {call : Call} {tier : Tier} : call.bare.Stays tier ↔ call.Stays tier := by
  cases call <;> rfl

namespace Engine

variable {e : Engine α}

/-- No call tells the FREE tier who sent a message. -/
theorem perform_bare (free : e.profile = .ofTier .free) (nobody : e.peers = .empty) (now : Nat)
    {call : Call} (stays : call.Stays .free) :
    e.bare.perform now call.bare = (e.perform now call).map Reply.bare := by
  cases call with
  | message m =>
    show (e.bare.receive now m.bare).map _ = Except.map _ ((e.receive now m).map _)
    rw [receive_bare free]
    cases e.receive now m <;> rfl
  | activity peer =>
    have met := meet_free free now peer
    have metBare : e.bare.meet peer now = (e.bare, none) := meet_free (e := e.bare) free now peer
    simp only [Call.bare, perform, trackPeer, met, metBare]
    rfl
  | cleanup =>
    show Except.ok ((e.bare.cleanup now).map Answer.removed) = _
    rw [cleanup_bare free nobody]
    rfl
  | setTier requested =>
    have same := setTier_bare stays e now
    show Except.ok ((e.bare.setTier now requested).map fun _ => Answer.done) =
      Except.ok ((e.setTier now requested).map fun _ => Answer.done).bare
    rw [same]
    generalize e.setTier now requested = reply
    rfl
  | close =>
    show Except.ok (e.bare.close.map fun _ => Answer.done) = _
    rw [close_bare nobody]
    rfl

end Engine

end GossipGate
