import GossipGate.Proofs.Decision
import GossipGate.Proofs.MappedStore

namespace GossipGate

variable {α : Type} {shift now : Nat}

/-! ### The same records by a clock that runs ahead -/

def Entry.later (shift : Nat) (entry : Entry α) : Entry α :=
  { entry with firstSeen := entry.firstSeen + shift, lastSeen := entry.lastSeen + shift }

def Peer.later (shift : Nat) (p : Peer α) : Peer α :=
  { p with
    lastActivity := p.lastActivity + shift
    previousActivity := p.previousActivity.map (· + shift) }

def Traffic.later (shift : Nat) (t : Traffic α) : Traffic α :=
  { t with lastSeen := t.lastSeen.map (· + shift) }

/-- The same gate by a clock that runs ahead by `shift` milliseconds. -/
def Engine.later (shift : Nat) (e : Engine α) : Engine α :=
  { e with
    store := e.store.mapEntries (Entry.later shift)
    traffic := e.traffic.mapValues fun _ => Traffic.later shift
    peers := e.peers.mapValues fun _ => Peer.later shift
    lastAdjust := e.lastAdjust + shift }

/-- Of all events only an eviction shows clock readings, those of the entry. -/
def Event.later (shift : Nat) : Event α → Event α
  | .evicted tier policy entry => .evicted tier policy (entry.later shift)
  | event => event

def Arrival.later (shift : Nat) (a : Arrival α) : Arrival α :=
  ⟨a.engine.later shift, a.scorer.map (Peer.later shift), a.traffic.later shift,
    a.events.map (Event.later shift)⟩

def Reply.later {β : Type} (shift : Nat) (r : Reply α β) : Reply α β :=
  ⟨r.engine.later shift, r.value, r.events.map (Event.later shift)⟩

theorem Entry.unnumbered_later : Entry.Unnumbered (Entry.later shift : Entry α → Entry α) :=
  fun _ _ => rfl

theorem Entry.isLive_later (entry : Entry α) (ttl : Duration) :
    (entry.later shift).isLive (now + shift) ttl = entry.isLive now ttl := by
  unfold Entry.isLive Entry.later
  rw [Nat.add_sub_add_right]

namespace Peer

variable (p : Peer α)

theorem gap?_later : (p.later shift).gap? = p.gap? := by
  unfold gap? later
  cases p.previousActivity with
  | none => rfl
  | some previous => exact congrArg some (Nat.add_sub_add_right _ _ _)

theorem isIdle_later (window : Duration) :
    (p.later shift).isIdle (now + shift) window = p.isIdle now window := by
  unfold isIdle later
  rw [Nat.add_sub_add_right]

end Peer

namespace Engine

variable (e : Engine α)

@[simp] theorem later_profile : (e.later shift).profile = e.profile := rfl
@[simp] theorem later_store :
    (e.later shift).store = e.store.mapEntries (Entry.later shift) := rfl
@[simp] theorem later_seen : (e.later shift).seen = e.seen := rfl
@[simp] theorem later_tuning : (e.later shift).tuning = e.tuning := rfl
@[simp] theorem later_networks : (e.later shift).networks = e.networks := rfl

theorem peer?_later (peer : String) :
    (e.later shift).peers.get? peer = (e.peers.get? peer).map (Peer.later shift) :=
  e.peers.get?_mapValues (fun _ => Peer.later shift) peer

theorem traffic?_later (messageType : String) :
    (e.later shift).traffic.get? messageType =
      (e.traffic.get? messageType).map (Traffic.later shift) :=
  e.traffic.get?_mapValues (fun _ => Traffic.later shift) messageType

theorem insertPeer_later (peer : String) (record : Peer α) :
    ({ e with peers := e.peers.insert peer record } : Engine α).later shift =
      { e.later shift with peers := (e.later shift).peers.insert peer (record.later shift) } := by
  have inserted := e.peers.mapValues_insert (Peer.later shift) peer record
  unfold later
  rw [inserted]

theorem insertTraffic_later (messageType : String) (t : Traffic α) :
    ({ e with traffic := e.traffic.insert messageType t } : Engine α).later shift =
      { e.later shift with
        traffic := (e.later shift).traffic.insert messageType (t.later shift) } := by
  have inserted := e.traffic.mapValues_insert (Traffic.later shift) messageType t
  unfold later
  rw [inserted]

end Engine

variable [Scalar α]

theorem Entry.retention_later (entry : Entry α) (profile : Profile) (score : Option α) :
    (entry.later shift).retention profile score (now + shift) =
      entry.retention profile score now := by
  have age : ((entry.later shift).ageHours (now + shift) : α) = entry.ageHours now := by
    unfold Entry.ageHours Entry.later
    rw [Nat.add_sub_add_right]
  unfold Entry.retention
  rw [age]
  rfl

namespace Traffic

variable (t : Traffic α)

theorem recordSize_later (size : Nat) (rate : α) :
    (t.later shift).recordSize size rate = (t.recordSize size rate).later shift := by
  unfold recordSize
  split <;> rfl

theorem arrive_later (rate : α) : (t.later shift).arrive (now + shift) rate =
    (t.arrive now rate).map fun arrived => (arrived.1.later shift, arrived.2) := by
  have last : (t.later shift).lastSeen = t.lastSeen.map (· + shift) := rfl
  have gap : ∀ gap, (t.later shift).nextGap gap rate = t.nextGap gap rate := fun _ => rfl
  unfold arrive
  rw [last]
  cases t.lastSeen with
  | none => rfl
  | some previous =>
    simp only [Option.map_some, gap, Nat.add_sub_add_right]
    cases t.nextGap (.ofMillis (now - previous)) rate <;> rfl

end Traffic

namespace Peer

variable (p : Peer α)

theorem recordActivity_later :
    (p.later shift).recordActivity (now + shift) = (p.recordActivity now).later shift := by
  unfold recordActivity later
  dsimp only
  split <;> rfl

theorem settle_later (duplicate : Bool) (rate : α) : (p.later shift).settle duplicate rate =
    ((p.settle duplicate rate).1.later shift, (p.settle duplicate rate).2) := by
  have scored : (p.later shift).scored duplicate rate = (p.scored duplicate rate).later shift := rfl
  unfold settle
  rw [scored]
  show (if !(p.scored duplicate rate).blacklisted && (p.scored duplicate rate).isFlooder then _
    else _) = _
  dsimp only
  split <;> rfl

theorem flooding?_later : Anomaly.flooding? (p.later shift) = Anomaly.flooding? p := by
  unfold Anomaly.flooding?
  rw [gap?_later]
  rfl

end Peer

namespace Engine

variable (e : Engine α) {m : Message}

/-! ### The bookkeeping of a message -/

theorem peerRecord_later (peer : String) :
    (e.later shift).peerRecord peer (now + shift) = (e.peerRecord peer now).later shift := by
  unfold peerRecord
  rw [peer?_later, later_networks]
  cases e.peers.get? peer with
  | some known => rfl
  | none =>
    dsimp only [Option.map_none]
    split <;> rfl

theorem meet_later (shift now : Nat) (peer : String) : (e.later shift).meet peer (now + shift) =
    ((e.meet peer now).1.later shift, (e.meet peer now).2.map (Peer.later shift)) := by
  unfold meet
  rw [later_profile, peerRecord_later, Peer.recordActivity_later]
  dsimp only
  split
  · rw [insertPeer_later]
    rfl
  · rfl

theorem judge_later (peer : String) (duplicate : Bool) : (e.later shift).judge peer duplicate =
    ((e.judge peer duplicate).1.later shift,
      (e.judge peer duplicate).2.map (Event.later shift)) := by
  unfold judge
  rw [peer?_later, later_tuning]
  cases e.peers.get? peer with
  | none => rfl
  | some record =>
    simp only [Option.map_some, Peer.settle_later, insertPeer_later]
    refine Prod.ext rfl (congrArg (_ :: ·) ?_)
    split <;> rfl

theorem measure_later (blocked : Bool) : (e.later shift).measure (now + shift) m blocked =
    (e.measure now m blocked).map fun measured => (measured.1.later shift, measured.2) := by
  have record : (e.later shift).trafficRecord m.messageType =
      (e.trafficRecord m.messageType).later shift := by
    unfold trafficRecord
    rw [traffic?_later]
    cases e.traffic.get? m.messageType <;> rfl
  have counted : ((e.trafficRecord m.messageType).later shift).countSeen.recordSize
      m.metadata.bytes e.tuning.learningRate =
        ((e.trafficRecord m.messageType).countSeen.recordSize m.metadata.bytes
          e.tuning.learningRate).later shift :=
    Traffic.recordSize_later (e.trafficRecord m.messageType).countSeen _ _
  unfold measure
  rw [record, later_tuning]
  dsimp only
  rw [counted]
  cases blocked with
  | true => rfl
  | false => exact Traffic.arrive_later _ _

theorem arrive_later : (e.later shift).arrive (now + shift) m =
    (e.arrive now m).map (Arrival.later shift) := by
  have met := meet_later ({ e with seen := e.seen + 1 } : Engine α) shift now m.peer
  have counted : ({ e.later shift with seen := (e.later shift).seen + 1 } : Engine α) =
      ({ e with seen := e.seen + 1 } : Engine α).later shift := rfl
  unfold arrive
  rw [counted, met, later_profile]
  generalize ({ e with seen := e.seen + 1 } : Engine α).meet m.peer now = record
  obtain ⟨gate, sender⟩ := record
  have scorer : (if e.profile.reputationScoring then sender.map (Peer.later shift) else none) =
      (if e.profile.reputationScoring then sender else none).map (Peer.later shift) := by
    split <;> rfl
  have listed : ((if e.profile.reputationScoring then sender else none).map
      (Peer.later shift)).any Peer.blacklisted =
        (if e.profile.reputationScoring then sender else none).any Peer.blacklisted := by
    rw [Option.any_map]
    rfl
  dsimp only
  rw [scorer, listed, measure_later]
  cases gate.measure now m _ with
  | error => rfl
  | ok measured =>
    obtain ⟨t, velocity⟩ := measured
    simp only [Except.map, bind, Except.bind, pure, Except.pure, Arrival.later,
      insertTraffic_later, List.map_map]
    rfl

/-! ### The way through the store -/

omit [Scalar α] in
theorem ownerScore?_later (entry : Entry α) :
    (e.later shift).ownerScore? (entry.later shift) = e.ownerScore? entry := by
  have peer : (entry.later shift).peer = entry.peer := rfl
  unfold ownerScore? Entry.hasPeer
  rw [peer, later_profile, peer?_later, Option.map_map]
  rfl

theorem evictOne_later (s : Store α) :
    (e.later shift).evictOne (now + shift) (s.mapEntries (Entry.later shift)) =
      (e.evictOne now s).mapEntries (Entry.later shift) := by
  unfold evictOne
  rw [later_profile]
  cases EvictionPolicy.ofProfile e.profile with
  | fifo => exact s.evictOldest_mapEntries
  | priority =>
    refine Store.evictLowest_mapEntries Entry.unnumbered_later (fun entry => ?_) s
    rw [ownerScore?_later, Entry.retention_later]

theorem sightAgain_later (entry : Entry α) :
    (e.sightAgain now entry).later shift =
      (e.later shift).sightAgain (now + shift) (entry.later shift) := by
  have touched : (entry.later shift).touch (now + shift) = (entry.touch now).later shift := rfl
  have since : now + shift - ((entry.touch now).later shift).firstSeen =
      now - (entry.touch now).firstSeen := Nat.add_sub_add_right _ _ _
  unfold sightAgain
  rw [touched, ownerScore?_later, later_profile]
  dsimp only
  rw [since]
  split <;> rfl

theorem sighting_later (a : Arrival α) :
    (e.later shift).sighting (a.later shift) m = e.sighting a m := by
  have scorer : (a.later shift).scorer = a.scorer.map (Peer.later shift) := rfl
  have ttl : (e.later shift).ttlFor (a.later shift).traffic m.messageType m.network =
      e.ttlFor a.traffic m.messageType m.network := rfl
  unfold sighting
  rw [scorer, ttl, later_profile, Option.map_map, Option.map_map]
  rfl

theorem lookUp_later (shift now : Nat) (a : Arrival α) : lookUp (now + shift) (a.later shift) m =
    (lookUp now a m).mapEntries (Entry.later shift) := by
  have mirrors : Mirrors (Entry.later shift) a.engine now (a.engine.sighting a m)
      (a.engine.later shift) (now + shift) (a.engine.sighting a m) :=
    { unnumbered := Entry.unnumbered_later
      key := rfl
      entry := rfl
      live := fun old => old.isLive_later _
      again := a.engine.sightAgain_later
      restarted := fun _ => rfl
      evicts := a.engine.evictOne_later }
  have engine : (a.later shift).engine = a.engine.later shift := rfl
  unfold lookUp
  rw [engine, sighting_later]
  exact mirrors.track maxAttempts a.engine.store

end Engine

end GossipGate
