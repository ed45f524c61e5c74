import GossipGate.Proofs.Adjustment
import GossipGate.Proofs.LaterGate
import GossipGate.Proofs.Run

namespace GossipGate

namespace Engine

variable {α : Type} [Scalar α] (e : Engine α) {m : Message} {shift now : Nat}

/-! ### The adjustment of the TTL -/

theorem taught?_later (global : Duration) (item : String × Traffic α) :
    (e.later shift).taught? global (item.map id (Traffic.later shift)) =
      (e.taught? global item).map (Option.map (Prod.map id (Traffic.later shift))) := by
  have same : (e.later shift).learnedFor global item.1 (item.2.later shift) =
      e.learnedFor global item.1 item.2 := rfl
  show Except.map _ ((e.later shift).learnedFor global item.1 (item.2.later shift)) = _
  rw [same]
  unfold taught?
  cases e.learnedFor global item.1 item.2 with
  | error => rfl
  | ok ttl? => cases ttl? <;> rfl

theorem learn_later (global : Duration) : (e.later shift).learn global =
    (e.learn global).map (List.map (Prod.map id (Traffic.later shift))) := by
  have entries : (e.later shift).traffic.entries =
      e.traffic.entries.map (Prod.map id (Traffic.later shift)) := rfl
  have each : ∀ item, ((e.later shift).taught? global ∘ Prod.map id (Traffic.later shift)) item =
      (e.taught? global item).map (Option.map (Prod.map id (Traffic.later shift))) :=
    e.taught?_later global
  rw [learn_eq, learn_eq, later_profile, entries, List.mapM_map]
  split
  · rw [mapM_map_ok each]
    cases e.traffic.entries.mapM (e.taught? global) with
    | error => rfl
    | ok learned =>
      simp only [Except.map, List.filterMap_map, List.map_filterMap]
      rfl
  · rfl

omit [Scalar α] in
theorem follow_later (learned : List (String × Traffic α)) (global : Duration)
    (messageType : String) (t : Traffic α) :
    (follow learned global messageType t).later shift =
      follow (learned.map (Prod.map id (Traffic.later shift))) global messageType
        (t.later shift) := by
  have found : (learned.map (Prod.map id (Traffic.later shift))).lookup messageType =
      (learned.lookup messageType).map (Traffic.later shift) := by
    induction learned with
    | nil => rfl
    | cons first rest ih =>
      obtain ⟨other, own⟩ := first
      simp only [List.map_cons, Prod.map, id, List.lookup_cons, ih]
      split <;> rfl
  unfold follow
  rw [found]
  cases learned.lookup messageType with
  | some own => rfl
  | none =>
    show (if t.adapted then t else { t with ttl := global }).later shift =
      if t.adapted then t.later shift else { t.later shift with ttl := global }
    split <;> rfl

omit [Scalar α] in
theorem retimed_later (change : TtlChange) (learned : List (String × Traffic α)) :
    (e.later shift).retimed change (learned.map (Prod.map id (Traffic.later shift))) =
      (e.retimed change learned).later shift := by
  have followed : (e.traffic.mapValues (follow learned change.ttl)).mapValues
      (fun _ => Traffic.later shift) = (e.later shift).traffic.mapValues
        (follow (learned.map (Prod.map id (Traffic.later shift))) change.ttl) :=
    Table.mapValues_mapValues (follow_later learned change.ttl)
  unfold retimed
  rw [← followed]
  rfl

theorem reports_later (change : TtlChange) (learned : List (String × Traffic α)) :
    (e.later shift).reports change (learned.map (Prod.map id (Traffic.later shift))) =
      (e.reports change learned).map (Event.later shift) := by
  unfold reports
  simp only [List.map_append, List.map_map]
  rfl

theorem adjustTtl_later (shift : Nat) : (e.later shift).adjustTtl =
    e.adjustTtl.map fun result => (result.1.later shift, result.2.map (Event.later shift)) := by
  have control : (e.later shift).control = e.control := rfl
  rw [adjustTtl_eq, adjustTtl_eq, later_seen, control]
  split
  · rfl
  cases e.control with
  | error => rfl
  | ok change =>
    simp only [bind, Except.bind, learn_later]
    cases e.learn change.ttl with
    | error => rfl
    | ok learned => simp only [Except.map, retimed_later, reports_later]

theorem adjustIfDue_later : (e.later shift).adjustIfDue (now + shift) =
    (e.adjustIfDue now).map fun result =>
      (result.1.later shift, result.2.map (Event.later shift)) := by
  have adjusted := adjustTtl_later ({ e with lastAdjust := now } : Engine α) shift
  have since : now + shift - (e.later shift).lastAdjust = now - e.lastAdjust :=
    Nat.add_sub_add_right _ _ _
  unfold adjustIfDue
  rw [since, later_tuning]
  split
  · rfl
  · exact adjusted

/-! ### The decision -/

theorem anomalies_later : (e.later shift).anomalies m = e.anomalies m := by
  have velocities : (e.later shift).traffic.values.map Traffic.velocity =
      e.traffic.values.map Traffic.velocity := by
    unfold later Table.values Table.mapValues
    simp only [List.map_map]
    rfl
  have flooding : ((e.peers.get? m.peer).map (Peer.later shift)).bind Anomaly.flooding? =
      (e.peers.get? m.peer).bind Anomaly.flooding? := by
    cases e.peers.get? m.peer with
    | none => rfl
    | some record => exact record.flooding?_later
  unfold anomalies
  rw [later_profile, later_tuning, velocities, peer?_later, traffic?_later, flooding]
  cases e.traffic.get? m.messageType <;> rfl

theorem judgeCaller_later (a : Arrival α) (duplicate : Bool) :
    (e.later shift).judgeCaller (a.later shift) m duplicate =
      ((e.judgeCaller a m duplicate).1.later shift,
        (e.judgeCaller a m duplicate).2.map (Event.later shift)) := by
  have scored : (a.later shift).scorer.isSome = a.scorer.isSome := Option.isSome_map
  unfold judgeCaller
  rw [scored]
  split
  · exact e.judge_later m.peer duplicate
  · rfl

theorem suppress_later (a : Arrival α) :
    (e.later shift).suppress (a.later shift) m = (e.suppress a m).later shift := by
  let counted : Engine α :=
    { e with
      duplicates := e.duplicates + 1
      traffic := e.traffic.modify m.messageType Traffic.countDuplicate }
  have repeated : (e.traffic.modify m.messageType Traffic.countDuplicate).mapValues
      (fun _ => Traffic.later shift) =
        (e.later shift).traffic.modify m.messageType Traffic.countDuplicate :=
    Table.mapValues_modify (f := Traffic.later shift) (g := Traffic.countDuplicate)
      (fun _ => rfl) _
  have suppresses : (e.later shift).suppress (a.later shift) m =
      ⟨((counted.later shift).judgeCaller (a.later shift) m true).1, true,
        ((counted.later shift).judgeCaller (a.later shift) m true).2 ++
          [.suppressed e.tier m.messageType .duplicate]⟩ := by
    unfold later
    rw [repeated]
    rfl
  rw [suppresses, judgeCaller_later]
  unfold Reply.later
  rw [show (e.suppress a m).events = (counted.judgeCaller a m true).2 ++
    [.suppressed e.tier m.messageType .duplicate] from rfl, List.map_append]
  rfl

theorem pass_later (a : Arrival α) (outcome : Outcome) :
    (e.later shift).pass (now + shift) (a.later shift) m outcome =
      (e.pass now a m outcome).map (Reply.later shift) := by
  have judged : (if outcome = .inserted then (e.later shift).judgeCaller (a.later shift) m false
      else (e.later shift, [])) =
      ((if outcome = .inserted then e.judgeCaller a m false else (e, [])).1.later shift,
        (if outcome = .inserted then e.judgeCaller a m false else (e, [])).2.map
          (Event.later shift)) := by
    split
    · exact e.judgeCaller_later a false
    · rfl
  have saturated : (if outcome = .dropped then [Event.saturated (α := α) m.messageType] else []) =
      (if outcome = .dropped then [Event.saturated m.messageType] else []).map
        (Event.later shift) := by
    split <;> rfl
  unfold pass
  rw [judged]
  generalize (if outcome = .inserted then e.judgeCaller a m false else (e, [])) = settled
  simp only [adjustIfDue_later]
  cases settled.1.adjustIfDue now with
  | error => rfl
  | ok adjusted =>
    simp only [Except.map, bind, Except.bind, pure, Except.pure, anomalies_later, Reply.later,
      List.map_append, List.map_map, ← saturated]
    rfl

omit [Scalar α] in
theorem evictions_later (admission : Admission α) :
    (e.later shift).evictions (admission.mapEntries (Entry.later shift)) =
      (e.evictions admission).map (Event.later shift) := by
  unfold evictions Admission.mapEntries
  simp only [List.map_map]
  rfl

omit [Scalar α] in
theorem after_later {β : Type} (r : Reply α β) (events : List (Event α)) :
    (r.later shift).after (events.map (Event.later shift)) = (r.after events).later shift := by
  unfold Reply.after Reply.later
  rw [List.map_append]

theorem resolve_later (a : Arrival α) : resolve (now + shift) (a.later shift) m =
    (resolve now a m).map (Reply.later shift) := by
  have looked := lookUp_later (m := m) shift now a
  have outcome : (lookUp (now + shift) (a.later shift) m).outcome = (lookUp now a m).outcome := by
    rw [looked]
    rfl
  have events : (a.later shift).events ++
      (a.later shift).engine.evictions (lookUp (now + shift) (a.later shift) m) =
        (a.events ++ a.engine.evictions (lookUp now a m)).map (Event.later shift) := by
    rw [looked, List.map_append, ← evictions_later]
    rfl
  have admitted : (a.later shift).engine.withStore
      (lookUp (now + shift) (a.later shift) m).store =
        (a.engine.withStore (lookUp now a m).store).later shift := by
    rw [looked]
    rfl
  by_cases duplicate : (lookUp now a m).outcome = .duplicate
  · rw [resolve_duplicate duplicate, resolve_duplicate (outcome.trans duplicate), events, admitted,
      suppress_later, after_later]
    rfl
  · have other : (lookUp (now + shift) (a.later shift) m).outcome ≠ .duplicate := by
      rw [outcome]
      exact duplicate
    rw [resolve_other duplicate, resolve_other other, events, admitted, outcome, pass_later]
    cases (a.engine.withStore (lookUp now a m).store).pass now a m (lookUp now a m).outcome with
    | error => rfl
    | ok reply => exact congrArg Except.ok (after_later reply _)

theorem receive_later : (e.later shift).receive (now + shift) m =
    (e.receive now m).map (Reply.later shift) := by
  unfold receive
  rw [arrive_later]
  split
  · rfl
  cases e.arrive now m with
  | error => rfl
  | ok a =>
    have blocked : (a.later shift).isBlocked = a.isBlocked := by
      unfold Arrival.isBlocked Arrival.later
      rw [Option.any_map]
      rfl
    simp only [Except.map, bind, Except.bind, blocked]
    split
    · refine congrArg Except.ok ?_
      unfold block Reply.later
      rw [List.map_append]
      rfl
    · exact resolve_later a

/-! ### The other calls -/

theorem isKept_later (shift now : Nat) (entry : Entry α) :
    (e.later shift).isKept (now + shift) (entry.later shift) = e.isKept now entry := by
  have since : now + shift - (entry.later shift).lastSeen = now - entry.lastSeen :=
    Nat.add_sub_add_right _ _ _
  have messageType : (entry.later shift).messageType = entry.messageType := rfl
  have ttl : (e.later shift).entryTtl (entry.later shift) = e.entryTtl entry := by
    unfold entryTtl
    rw [messageType, traffic?_later]
    cases e.traffic.get? entry.messageType <;> rfl
  have retention : (e.later shift).retentionMillis (entry.later shift) =
      e.retentionMillis entry := by
    unfold retentionMillis
    rw [ttl, ownerScore?_later]
    rfl
  unfold isKept
  rw [since, retention]

theorem cleanup_later : (e.later shift).cleanup (now + shift) = (e.cleanup now).later shift := by
  have stored := Store.retain_mapEntries Entry.unnumbered_later
    (e.isKept_later shift now) e.store
  have known : (e.peers.filter fun _ p => !p.isIdle now e.tuning.reputationDecay).mapValues
      (fun _ => Peer.later shift) = (e.later shift).peers.filter fun _ p =>
        !p.isIdle (now + shift) e.tuning.reputationDecay :=
    Table.mapValues_filter fun _ p => congrArg not (p.isIdle_later e.tuning.reputationDecay)
  have count : ∀ peers : Table String (Peer α),
      (peers.mapValues fun _ => Peer.later shift).size = peers.size :=
    fun peers => List.length_map _
  have size : (e.later shift).peers.size = e.peers.size := count e.peers
  unfold cleanup
  rw [later_store, later_tuning, size, stored, ← known]
  dsimp only
  rw [count]
  unfold Reply.later
  split <;> rfl

theorem shrunk_later (tier : Tier) : (e.later shift).shrunk (now + shift) tier =
    ((e.shrunk now tier).1.mapEntries (Entry.later shift),
      (e.shrunk now tier).2.map (Entry.later shift)) :=
  shrink_mapEntries ({ e with profile := .ofTier tier } : Engine α).evictOne_later
    (e.store.setCapacity tier.capacity)

omit [Scalar α] in
theorem retiered_later (requested : String) (shrunk : Store α × List (Entry α)) :
    (e.later shift).retiered requested
      (shrunk.1.mapEntries (Entry.later shift), shrunk.2.map (Entry.later shift)) =
        (e.retiered requested shrunk).later shift := by
  have unknown : (Event.ofTierRequest requested : List (Event α)).map (Event.later shift) =
      Event.ofTierRequest requested := by
    unfold Event.ofTierRequest
    split <;> rfl
  unfold retiered Reply.later
  simp only [List.map_append, List.map_map, unknown]
  rfl

theorem setTier_later (requested : String) :
    (e.later shift).setTier (now + shift) requested = (e.setTier now requested).later shift := by
  rw [setTier_eq, setTier_eq, shrunk_later, retiered_later]

omit [Scalar α] in
theorem close_later : (e.later shift).close = e.close.later shift := by
  have count : (e.later shift).peers.size = e.peers.size := List.length_map _
  unfold close Reply.later
  rw [count]
  show Reply.mk _ _ (if e.closed then _ else _) =
    Reply.mk _ _ (List.map _ (if e.closed then _ else _))
  split <;> rfl

/-- Every call goes by the time that has passed, never by the time of day. -/
theorem perform_later (call : Call) : (e.later shift).perform (now + shift) call =
    (e.perform now call).map (Reply.later shift) := by
  cases call with
  | message m =>
    show ((e.later shift).receive (now + shift) m).map _ = Except.map _ ((e.receive now m).map _)
    rw [receive_later]
    cases e.receive now m <;> rfl
  | activity peer =>
    have met := e.meet_later shift now peer
    simp only [perform, trackPeer, met]
    rfl
  | cleanup =>
    simp only [perform, cleanup_later]
    rfl
  | setTier requested =>
    simp only [perform, setTier_later]
    generalize e.setTier now requested = reply
    rfl
  | close =>
    simp only [perform, close_later]
    rfl

end Engine

end GossipGate
