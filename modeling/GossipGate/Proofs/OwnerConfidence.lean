import GossipGate.Proofs.Footprint

namespace GossipGate

variable {α : Type} [Scalar α]

/-- In doubles the score of a peer without history leaves a confidence as no score does. -/
theorem Confidence.updated_fullScore (current : Float) (seenCount sinceFirst : Nat) :
    updated current seenCount sinceFirst (some 1.0) =
      updated current seenCount sinceFirst none := by
  have neutral : (0.5 + 1.0 * 0.5 : Float) = 1.0 := by decide +kernel
  unfold updated
  dsimp only
  rw [neutral]

/-- A live entry after another sighting, where confidence is scored or not. The score is that of the
peer that brought the entry in, as far as there is one. -/
def Entry.resighted (entry : Entry α) (scoring : Bool) (now : Nat) (score : Option α) : Entry α :=
  { entry with
    lastSeen := now
    seenCount := entry.seenCount + 1
    confidence :=
      if scoring then
        Confidence.updated entry.confidence (entry.seenCount + 1) (now - entry.firstSeen) score
      else entry.confidence }

variable {s : Store α} {items : List (Key × Entry α)} {e : Engine α} {now : Nat} {m : Message}
  {seen : Sighting α}

theorem Admits.resights {admission : Admission α} (admits : Admits e now seen s items admission)
    (duplicate : admission.outcome = .duplicate) :
    (∃ entry, s.get? seen.key = some entry) ∧
      admission.store = s.modify seen.key (e.sightAgain now) := by
  cases admits with
  | duplicate found _ => exact ⟨⟨_, found⟩, rfl⟩
  | refreshed | inserted | replaced => cases duplicate

namespace Engine

/-- The score in the record of a peer. The record may be gone. -/
def scoreOf? (e : Engine α) (peer : String) : Option α := (e.peers.get? peer).map Peer.score

/-- Counting a message changes no score. It may bring in a new record, which has the full one. -/
theorem meet_scoreOf (owner peer : String) :
    (e.meet peer now).1.scoreOf? owner = e.scoreOf? owner ∨
      e.scoreOf? owner = none ∧ (e.meet peer now).1.scoreOf? owner = some 1.0 := by
  by_cases own : owner = peer
  · subst own
    unfold meet
    split
    · unfold scoreOf?
      simp only [Table.get?_insert, if_true, Option.map_some]
      unfold peerRecord
      cases e.peers.get? owner with
      | some known => exact Or.inl rfl
      | none =>
        right
        dsimp only
        split <;> exact ⟨rfl, rfl⟩
    · exact Or.inl rfl
  · left
    unfold scoreOf?
    rw [meet_other own]

omit [Scalar α] in
theorem Regular.scores (regular : e.Regular) :
    e.profile.reputationScoring = e.profile.confidenceScoring := by
  rw [regular.profile]
  rfl

omit [Scalar α] in
/-- Where confidence is scored, the score of an owner is that in its record. -/
theorem Regular.ownerScore (regular : e.Regular) (scoring : e.profile.confidenceScoring = true)
    (entry : Entry α) : e.ownerScore? entry = e.scoreOf? entry.peer := by
  unfold ownerScore? scoreOf?
  rw [regular.scores, scoring, Bool.true_and]
  split
  · rfl
  · rename_i nobody
    have nameless : entry.peer = "" := by simpa [Entry.hasPeer] using nobody
    rw [nameless, regular.nameless]
    rfl

theorem arrive_scoreOf {a : Arrival α} (arrived : e.arrive now m = .ok a) (owner : String) :
    a.engine.scoreOf? owner = e.scoreOf? owner ∨
      e.scoreOf? owner = none ∧ a.engine.scoreOf? owner = some 1.0 := by
  have peers := arrive_peers arrived
  unfold scoreOf?
  rw [peers]
  exact meet_scoreOf (e := { e with seen := e.seen + 1 }) owner m.peer

/-- What another sighting makes of an entry does not depend on the message that causes it: where
the message brings the record of the owner in, that leaves the confidence as no record does. -/
theorem arrive_sightAgain {e : Engine Float} {a : Arrival Float} (regular : e.Regular)
    (arrived : e.arrive now m = .ok a) (entry : Entry Float) : a.engine.sightAgain now entry =
      entry.resighted e.profile.confidenceScoring now (e.scoreOf? entry.peer) := by
  have profile := (arrive_follows arrived).profile
  unfold sightAgain Entry.resighted Entry.touch
  dsimp only
  rw [profile]
  cases scoring : e.profile.confidenceScoring with
  | false => rfl
  | true =>
    have kept : a.engine.Regular :=
      (arrive_goes arrived).1.keeps_always (fun _ _ moves kept => kept.moves moves) regular
    have owner := kept.ownerScore (profile ▸ scoring) entry
    have same : Confidence.updated entry.confidence (entry.seenCount + 1) (now - entry.firstSeen)
        (a.engine.scoreOf? entry.peer) = Confidence.updated entry.confidence (entry.seenCount + 1)
          (now - entry.firstSeen) (e.scoreOf? entry.peer) := by
      rcases arrive_scoreOf arrived entry.peer with known | ⟨absent, full⟩
      · rw [known]
      · rw [absent, full]
        exact Confidence.updated_fullScore _ _ _
    simp only [owner, same, if_true]

/-- A suppressed message of a sender that is not blocked finds an entry under its key, and leaves it
as its owner has it. -/
theorem Receives.resights {e : Engine Float} {items : List (Key × Entry Float)}
    {reply : Reply Float Bool} (receives : e.Receives now m reply) (regular : e.Regular)
    (holds : e.store.Holds items) (usable : 0 < e.store.capacity)
    (fits : e.store.size ≤ e.store.capacity) (suppressed : reply.value = true)
    (unblocked : e.blocks m = false) :
    (∃ entry, e.store.get? (e.keyOf m) = some entry) ∧
      reply.engine.store = e.store.modify (e.keyOf m) fun entry =>
        entry.resighted e.profile.confidenceScoring now (e.scoreOf? entry.peer) := by
  have named : m.hash.isEmpty = false := by
    by_contra nameless
    rw [Bool.not_eq_false] at nameless
    have unasked : e.asked? m = none := by simp only [asked?, nameless, Bool.true_or, if_true]
    have value := (receives.unasked unasked).2.1
    rw [suppressed, unblocked, Bool.and_false] at value
    cases value
  have asks : e.asked? m = some (e.keyOf m) := by simp [asked?, named, unblocked]
  obtain ⟨a, arrived, _, stored, duplicate⟩ := receives.asked asks
  have key := (arrive_follows arrived).key
  obtain ⟨found, touched⟩ := (lookUp_admits holds usable fits arrived).resights
    (duplicate.1 suppressed)
  rw [key] at found touched
  rw [stored, touched]
  exact ⟨found, congrArg _ (funext (arrive_sightAgain regular arrived))⟩

end Engine

variable {c : Config Float} {opened : Nat} {past : List (Step Float)} {e gate : Engine Float}

/-- The confidence in an entry follows the peer that brought it in, whoever sends the message again:
all calls at one reading of the clock that find the entry a live duplicate leave the same store. The
new confidence comes from the old entry, the clock and the score that the record of its owner has
before the call; without an owner or a record it is that of no score. -/
theorem Run.confidence_follows_owner (run : Run c opened past e) (reordered : e.Reordered gate)
    {reply : Reply Float Answer} (performed : gate.perform now (.message m) = .ok reply)
    (suppressed : reply.value = .verdict true) (unblocked : gate.blocks m = false) :
    ∃ old, gate.store.get? (gate.keyOf m) = some old ∧
      reply.engine.store.get? (gate.keyOf m) = some
        (old.resighted gate.profile.confidenceScoring now (gate.scoreOf? old.peer)) ∧
      (old.hasPeer = false → gate.scoreOf? old.peer = none) ∧
      ∀ other second, gate.keyOf other = gate.keyOf m →
        gate.perform now (.message other) = .ok second → second.value = .verdict true →
          gate.blocks other = false → second.engine.store = reply.engine.store := by
  obtain ⟨items, _, holds, usable, fits⟩ := run.ready reordered
  have regular : gate.Regular := by
    obtain ⟨store, _, rfl⟩ := reordered
    exact ⟨run.regular.profile, run.regular.nameless⟩
  have resights : ∀ (sent : Message) (last : Reply Float Answer),
      gate.perform now (.message sent) = .ok last → last.value = .verdict true →
      gate.blocks sent = false → (∃ entry, gate.store.get? (gate.keyOf sent) = some entry) ∧
        last.engine.store = gate.store.modify (gate.keyOf sent) fun entry =>
          entry.resighted gate.profile.confidenceScoring now (gate.scoreOf? entry.peer) := by
    intro sent last answered value free
    obtain ⟨answer, received, rfl⟩ := Engine.perform_message answered
    exact (Engine.receive_receives received).resights regular holds usable fits
      (Answer.verdict.inj value) free
  obtain ⟨⟨old, found⟩, left⟩ := resights m reply performed suppressed unblocked
  refine ⟨old, found, ?_, ?_, ?_⟩
  · have again := holds.get?_modify (gate.keyOf m) (gate.keyOf m) (f := fun entry =>
      entry.resighted gate.profile.confidenceScoring now (gate.scoreOf? entry.peer)) fun _ => rfl
    rw [left, again, if_pos rfl, found, Option.map_some]
  · intro nobody
    have nameless : old.peer = "" := by simpa [Entry.hasPeer] using nobody
    rw [Engine.scoreOf?, nameless, regular.nameless, Option.map_none]
  · intro other second key answered value free
    rw [(resights other second answered value free).2, key, left]

/-- Settings of the ENTERPRISE tier that forget peers after a millisecond. -/
def fleetingConfig : Config Float :=
  { Config.ofTier .enterprise with reputationDecay := .ofMillis 1 }

theorem fleetingConfig_usable : fleetingConfig.problem? = none := by decide +kernel

/-- The record of the owner is gone. The entry is left alike by a message of the owner, which brings
the record in anew, and by one of another peer and another type. -/
theorem confidence_follows_owner_forgotten : ∃ (past : List (Step Float)) (e : Engine Float)
    (own other : Reply Float Answer) (old : Entry Float), Run fleetingConfig 0 past e ∧
      e.Reordered e ∧ e.perform 20 (.message ⟨"a", "t", "p", .empty⟩) = .ok own ∧
      own.value = .verdict true ∧ e.blocks ⟨"a", "t", "p", .empty⟩ = false ∧
      e.perform 20 (.message ⟨"a", "u", "q", .empty⟩) = .ok other ∧
      other.value = .verdict true ∧ e.blocks ⟨"a", "u", "q", .empty⟩ = false ∧
      e.scoreOf? "p" = none ∧ own.engine.scoreOf? "p" ≠ none ∧
      other.engine.store = own.engine.store ∧
      own.engine.store.get? (.global "a") = some (old.resighted true 20 none) := by
  let owners : Message := ⟨"a", "t", "p", .empty⟩
  let others : Message := ⟨"a", "u", "q", .empty⟩
  have reaches : (Engine.assemble fleetingConfig
      (Config.minTtl_le_maxTtl fleetingConfig_usable) 0).engine.reaches
        [(0, .message owners), (10, .cleanup)] (fun e =>
        (!e.blocks owners && !e.blocks others) &&
        ((e.peers.get? "p").isNone && e.profile.confidenceScoring) &&
        (e.keyOf owners = .global "a" && e.keyOf others = .global "a") &&
        (e.store.get? (.global "a")).all (fun old => old.peer = "p") &&
        (e.perform 20 (.message owners)).toOption.any (fun own => own.value = .verdict true &&
          (own.engine.peers.get? "p").isSome) &&
        (e.perform 20 (.message others)).toOption.any (fun other =>
          other.value = .verdict true)) = true := by
    decide +kernel
  obtain ⟨past, e, run, _, _, facts⟩ := Run.of_reaches fleetingConfig_usable reaches
  simp only [Bool.and_eq_true, Bool.not_eq_true', Option.isNone_iff_eq_none, decide_eq_true_eq]
    at facts
  obtain ⟨⟨⟨⟨⟨⟨unblocked, free⟩, gone, scoring⟩, ownKey, otherKey⟩, owned⟩, first⟩, second⟩ := facts
  cases performed : e.perform 20 (.message owners) with
  | error => simp [performed, Except.toOption] at first
  | ok own =>
  cases answered : e.perform 20 (.message others) with
  | error => simp [answered, Except.toOption] at second
  | ok other =>
  simp only [performed, answered, Except.toOption, Option.any_some, Bool.and_eq_true,
    decide_eq_true_eq] at first second
  obtain ⟨old, found, left, _, follows⟩ :=
    run.confidence_follows_owner (.refl e) performed first.1 unblocked
  rw [ownKey] at found left
  have brought : old.peer = "p" := by simpa [found] using owned
  have unknown : e.scoreOf? "p" = none := by rw [Engine.scoreOf?, gone, Option.map_none]
  rw [scoring, brought, unknown] at left
  refine ⟨past, e, own, other, old, run, .refl e, performed, first.1, unblocked, answered, second,
    free, unknown, ?_, follows others other (otherKey.trans ownKey.symm) answered second free, left⟩
  simpa [Engine.scoreOf?, Option.isSome_iff_ne_none] using first.2

end GossipGate
