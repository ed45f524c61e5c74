import GossipGate.Engine.Run

namespace GossipGate

variable {α : Type}

/-- The same gate over another store. -/
def Engine.withStore (e : Engine α) (store : Store α) : Engine α := { e with store }

def Reply.withStore {β : Type} (r : Reply α β) (store : Store α) : Reply α β :=
  ⟨r.engine.withStore store, r.value, r.events⟩

def Arrival.withStore (a : Arrival α) (store : Store α) : Arrival α :=
  ⟨a.engine.withStore store, a.scorer, a.traffic, a.events⟩

namespace Engine

section Fields

variable {e : Engine α} {store : Store α}

@[simp] theorem withStore_profile : (e.withStore store).profile = e.profile := rfl
@[simp] theorem withStore_store : (e.withStore store).store = store := rfl
@[simp] theorem withStore_traffic : (e.withStore store).traffic = e.traffic := rfl
@[simp] theorem withStore_peers : (e.withStore store).peers = e.peers := rfl
@[simp] theorem withStore_seen : (e.withStore store).seen = e.seen := rfl
@[simp] theorem withStore_duplicates : (e.withStore store).duplicates = e.duplicates := rfl
@[simp] theorem withStore_lastAdjust : (e.withStore store).lastAdjust = e.lastAdjust := rfl
@[simp] theorem withStore_tuning : (e.withStore store).tuning = e.tuning := rfl
@[simp] theorem withStore_globalTtl : (e.withStore store).globalTtl = e.globalTtl := rfl
@[simp] theorem withStore_tier : (e.withStore store).tier = e.tier := rfl

theorem withStore_self : e.withStore e.store = e := rfl

end Fields

/-! ### The parts of an adjustment of the TTL -/

section Adjustment

variable [Scalar α] {e : Engine α}

/-- The events of an adjustment with enough messages. -/
def reports (e : Engine α) (change : TtlChange) (learned : List (String × Traffic α)) :
    List (Event α) :=
  learned.map (fun pair =>
      Event.typeTtlLearned e.tier pair.1 pair.2.duplicateRate pair.2.ttl) ++
    [.ttlAdjusted e.tier (Scalar.ratio e.duplicates e.seen) e.globalTtl change]

/-- The new global TTL, by the controller of the profile. -/
def control (e : Engine α) : Except Fault TtlChange :=
  if e.profile.adaptiveLearning then
    TtlChange.scale e.globalTtl (Scalar.ratio e.duplicates e.seen : α) e.tuning.learningRate
      e.tuning.window.toTtlBounds
  else
    TtlChange.step e.globalTtl (Scalar.ratio e.duplicates e.seen : α) e.tuning.window.toTtlBounds

/-- The gate with a new global TTL and with what the types of messages learned from it. -/
def retimed (e : Engine α) (change : TtlChange) (learned : List (String × Traffic α)) : Engine α :=
  { e with
    ttlMillis := change.ttl.millisWord
    traffic := e.traffic.mapValues (follow learned change.ttl)
    seen := e.seen / 2
    duplicates := e.duplicates / 2 }

theorem adjustTtl_eq (e : Engine α) : e.adjustTtl =
    if e.seen < 100 then .ok (e, [])
    else
      e.control >>= fun change => (e.learn change.ttl).map fun learned =>
        (e.retimed change learned, e.reports change learned) := by
  unfold adjustTtl control
  split
  · rfl
  by_cases adaptive : e.profile.adaptiveLearning = true
  · simp only [adaptive, if_true]
    refine congrArg (TtlChange.scale _ _ _ _ >>= ·) (funext fun change => ?_)
    cases e.learn change.ttl <;> rfl
  · simp only [adaptive, Bool.false_eq_true, if_false]
    refine congrArg (TtlChange.step _ _ _ >>= ·) (funext fun change => ?_)
    cases e.learn change.ttl <;> rfl

end Adjustment

/-! ### Nothing but the store looks at the store -/

variable [Scalar α] {e : Engine α} {now : Nat} {m : Message} (store : Store α)

theorem meet_withStore (now : Nat) (peer : String) : (e.withStore store).meet peer now =
    ((e.meet peer now).1.withStore store, (e.meet peer now).2) := by
  unfold meet
  by_cases tracked : (e.profile.peerTracking && !peer.isEmpty) = true
  · simp only [withStore_profile, tracked, if_true]
    rfl
  · simp only [withStore_profile, tracked]
    rfl

theorem judge_withStore (peer : String) (duplicate : Bool) :
    (e.withStore store).judge peer duplicate =
      ((e.judge peer duplicate).1.withStore store, (e.judge peer duplicate).2) := by
  unfold judge
  simp only [withStore_peers]
  cases e.peers.get? peer <;> rfl

theorem judgeCaller_withStore (a : Arrival α) (duplicate : Bool) :
    (e.withStore store).judgeCaller a m duplicate =
      ((e.judgeCaller a m duplicate).1.withStore store, (e.judgeCaller a m duplicate).2) := by
  unfold judgeCaller
  cases a.scorer.isSome
  · rfl
  · exact judge_withStore store m.peer duplicate

theorem measure_withStore (blocked : Bool) :
    (e.withStore store).measure now m blocked = e.measure now m blocked := rfl

theorem arrive_withStore : (e.withStore store).arrive now m =
    (e.arrive now m).map fun a => a.withStore store := by
  have met := meet_withStore (e := { e with seen := e.seen + 1 }) store now m.peer
  have apart : { e.withStore store with seen := (e.withStore store).seen + 1 } =
      ({ e with seen := e.seen + 1 } : Engine α).withStore store := rfl
  unfold arrive
  rw [apart, met]
  generalize ({ e with seen := e.seen + 1 } : Engine α).meet m.peer now = record
  simp only [measure_withStore]
  by_cases scored : e.profile.reputationScoring = true
  · simp only [withStore_profile, scored, if_true]
    cases record.1.measure now m (record.2.any Peer.blacklisted) <;> rfl
  · simp only [withStore_profile, scored, Bool.false_eq_true, if_false]
    cases record.1.measure now m (Option.any Peer.blacklisted none) <;> rfl

theorem learn_withStore (global : Duration) :
    (e.withStore store).learn global = e.learn global := rfl

theorem adjustTtl_withStore : (e.withStore store).adjustTtl =
    e.adjustTtl.map fun r => (r.1.withStore store, r.2) := by
  have control : (e.withStore store).control = e.control := rfl
  rw [adjustTtl_eq, adjustTtl_eq, withStore_seen, control]
  split
  · rfl
  cases e.control with
  | error => rfl
  | ok change =>
    simp only [bind, Except.bind, learn_withStore]
    cases e.learn change.ttl <;> rfl

theorem adjustIfDue_withStore : (e.withStore store).adjustIfDue now =
    (e.adjustIfDue now).map fun r => (r.1.withStore store, r.2) := by
  unfold adjustIfDue
  simp only [withStore_lastAdjust, withStore_tuning]
  by_cases early : now - e.lastAdjust < e.tuning.adjustEvery
  · simp only [early, if_true]
    rfl
  · simp only [early, if_false]
    exact adjustTtl_withStore (e := { e with lastAdjust := now }) store

theorem suppress_withStore (a : Arrival α) :
    (e.withStore store).suppress a m = (e.suppress a m).withStore store := by
  let counted : Engine α :=
    { e with
      duplicates := e.duplicates + 1
      traffic := e.traffic.modify m.messageType Traffic.countDuplicate }
  have judged := judgeCaller_withStore (e := counted) (m := m) store a true
  show Reply.mk ((counted.withStore store).judgeCaller a m true).1 true
    (((counted.withStore store).judgeCaller a m true).2 ++
      [.suppressed e.tier m.messageType .duplicate]) = _
  rw [judged]
  rfl

theorem pass_withStore (a : Arrival α) (outcome : Outcome) :
    (e.withStore store).pass now a m outcome =
      (e.pass now a m outcome).map fun r => r.withStore store := by
  have judged : (if outcome = .inserted then (e.withStore store).judgeCaller a m false
      else (e.withStore store, [])) =
      ((if outcome = .inserted then e.judgeCaller a m false else (e, [])).1.withStore store,
        (if outcome = .inserted then e.judgeCaller a m false else (e, [])).2) := by
    split
    · exact judgeCaller_withStore store a false
    · rfl
  unfold pass
  rw [judged]
  generalize (if outcome = .inserted then e.judgeCaller a m false else (e, [])) = settled
  simp only [adjustIfDue_withStore]
  cases settled.1.adjustIfDue now <;> rfl

/-! ### Everything but the store leaves the store -/

omit store

theorem arrive_store {a : Arrival α} (arrived : e.arrive now m = .ok a) :
    a.engine.store = e.store := by
  have apart : (e.withStore e.store).arrive now m = _ := arrive_withStore e.store
  rw [withStore_self, arrived] at apart
  injection apart with same
  exact congrArg (fun other => other.engine.store) same

theorem suppress_store (a : Arrival α) : (e.suppress a m).engine.store = e.store :=
  congrArg (fun r => r.engine.store) (suppress_withStore e.store a)

theorem pass_store {a : Arrival α} {outcome : Outcome} {reply : Reply α Bool}
    (passed : e.pass now a m outcome = .ok reply) : reply.engine.store = e.store := by
  have apart : (e.withStore e.store).pass now a m outcome = _ := pass_withStore e.store a outcome
  rw [withStore_self, passed] at apart
  injection apart with same
  exact congrArg (fun r => r.engine.store) same

theorem meet_store (peer : String) : (e.meet peer now).1.store = e.store :=
  congrArg (fun met => met.1.store) (meet_withStore e.store now peer)

end Engine

end GossipGate
