import GossipGate.Proofs.Reputation
import GossipGate.Proofs.TrafficRecords

namespace GossipGate

variable {α : Type} [Scalar α]

theorem Scalar.share_of_pos {part whole : Nat} (filled : 0 < whole) :
    (Scalar.share part whole : α) = Scalar.ratio part whole := if_neg filled.ne'

/-! ### Types of messages -/

/-- The counts of a type of which messages were seen, and the share that is computed from them. -/
structure Traffic.Derived (t : Traffic α) : Prop where
  seen : 1 ≤ t.seen
  fewer : t.duplicates ≤ t.seen
  rate : t.duplicateRate = Scalar.ratio t.duplicates t.seen

theorem Traffic.Derived.retimed {t after : Traffic α} (derived : t.Derived)
    (retimed : t.Retimed after) : after.Derived := by
  obtain ⟨ttl, adapted, rfl⟩ := retimed
  exact ⟨derived.seen, derived.fewer, derived.rate⟩

theorem Traffic.Derived.countDuplicate {t : Traffic α} (derived : t.Derived)
    (room : t.duplicates < t.seen) : t.countDuplicate.Derived :=
  ⟨derived.seen, room, Scalar.share_of_pos derived.seen⟩

namespace Engine

variable {e : Engine α} {now : Nat} {m : Message}

/-- The share of duplicates is computed again whenever a message is measured. -/
theorem measure_rate {blocked : Bool} {measured : Traffic α × Option α}
    (done : e.measure now m blocked = .ok measured) :
    measured.1.duplicateRate = Scalar.share measured.1.duplicates measured.1.seen := by
  obtain ⟨averageSize, sized⟩ := (e.trafficRecord m.messageType).countSeen.recordSize_eq
    m.metadata.bytes e.tuning.learningRate
  unfold measure at done
  simp only [sized] at done
  cases blocked with
  | true =>
    simp only [if_true] at done
    cases done
    rfl
  | false =>
    simp only [Bool.false_eq_true, if_false] at done
    obtain ⟨averageGap, lastSeen, velocity, same⟩ := Traffic.arrive_fst done
    rw [same]
    rfl

/-- What counts a message derives its share from counts that it has just changed. -/
theorem Measured.derived {t : Traffic α} (counted : e.Measured now m t)
    (before : ∀ known, e.traffic.get? m.messageType = some known → known.Derived) : t.Derived := by
  obtain ⟨measured, done, last⟩ := counted
  obtain ⟨seen, duplicates⟩ := measure_counts done
  have fewer : (e.trafficRecord m.messageType).duplicates ≤
      (e.trafficRecord m.messageType).seen := by
    unfold trafficRecord
    cases stored : e.traffic.get? m.messageType with
    | none => exact le_rfl
    | some known => exact (before known stored).fewer
  have repeated : (if e.blocks m then 1 else 0) ≤ 1 := by split <;> decide
  have derived : measured.1.Derived := by
    refine ⟨by omega, by omega, ?_⟩
    rw [measure_rate done, Scalar.share_of_pos (by omega)]
  rcases last with rfl | ⟨unblocked, rfl⟩
  · exact derived
  · rw [unblocked] at duplicates
    exact derived.countDuplicate (by simp at duplicates; omega)

/-- A call derives the shares of all types from their counts again. -/
theorem perform_derives {call : Call} {reply : Reply α Answer}
    (performed : e.perform now call = .ok reply)
    (before : ∀ messageType t, e.traffic.get? messageType = some t → t.Derived) :
    ∀ messageType t, reply.engine.traffic.get? messageType = some t → t.Derived := by
  intro messageType after found
  rcases perform_traffic performed messageType with
    ⟨m, t, last, _, _, rfl, counted, retimed, stored⟩ | ⟨_, kept⟩
  · cases Option.some.inj (stored.symm.trans found)
    exact (counted.derived fun known => before _ known).retimed retimed
  · rw [found] at kept
    cases stored : e.traffic.get? messageType with
    | none =>
      rw [stored] at kept
      cases kept
    | some t =>
      rw [stored] at kept
      exact (before messageType t stored).retimed (Option.rel_some_some.1 kept)

end Engine

/-! ### Peers -/

namespace Step

/-- Whether a call counts a message of a peer: one with a hash that it sends, or one that is
reported, under a profile that tracks peers. -/
def counts (step : Step α) (peer : String) : Bool :=
  match step.call with
  | .message m => m.peer = peer && step.before.tracks peer && !m.hash.isEmpty
  | .activity other => other = peer && step.before.tracks peer
  | _ => false

theorem counts_eq (step : Step α) (peer : String) :
    step.counts peer = !(step.before.notes step.now step.call peer).isEmpty := by
  unfold counts Engine.notes
  cases step.call with
  | message m =>
    dsimp only
    split <;> simp_all
  | activity other =>
    dsimp only
    split <;> simp_all
  | cleanup | setTier | close => rfl

end Step

/-- When the messages of a peer came that were counted since its record was created, the latest
first. -/
def countedAt (peer : String) : List (Step α) → List Nat
  | [] => []
  | step :: past =>
    if (step.reply.engine.peers.get? peer).isNone then []
    else if step.counts peer then step.now :: countedAt peer past
    else countedAt peer past

/-- What the record of a peer tells about its messages that were counted at some readings of the
clock, the latest first, or about none. -/
structure Peer.Tells (p : Peer α) (readings : List Nat) : Prop where
  messages : p.messages = readings.length
  fewer : p.duplicates ≤ p.messages
  rate : p.duplicateRate = Scalar.share p.duplicates p.messages
  latest : ∀ reading, readings[0]? = some reading → p.lastActivity = reading
  previous : p.previousActivity = readings[1]?

/-- The counts of a peer with some counted messages, and what is derived from them. -/
structure Peer.Derived (p : Peer α) (readings : List Nat) : Prop where
  messages : 1 ≤ p.messages
  fewer : p.duplicates ≤ p.messages
  rate : p.duplicateRate = Scalar.ratio p.duplicates p.messages
  counted : p.messages = readings.length
  latest : readings[0]? = some p.lastActivity
  previous : readings[1]? = p.previousActivity
  twice : p.previousActivity.isSome = true ↔ 2 ≤ p.messages

namespace Peer

variable {p : Peer α} {readings : List Nat}

theorem tells_newcomer (networks : Networks) (peer : String) :
    (networks.newcomer peer : Peer α).Tells [] :=
  ⟨rfl, le_rfl, rfl, nofun, rfl⟩

theorem Tells.activity (tells : p.Tells readings) (now : Nat) :
    (p.recordActivity now).Tells (now :: readings) := by
  refine ⟨congrArg (· + 1) tells.messages, Nat.le_succ_of_le tells.fewer, rfl, ?_, ?_⟩
  · rintro reading ⟨⟩
    rfl
  · show (if 0 < p.messages then some p.lastActivity else p.previousActivity) = readings[0]?
    cases readings with
    | nil =>
      have none : p.messages = 0 := tells.messages
      rw [if_neg (by omega), tells.previous]
      rfl
    | cons reading earlier =>
      have some : p.messages = earlier.length + 1 := tells.messages
      rw [if_pos (by omega), tells.latest reading rfl]
      rfl

/-- An outcome counts at most the one message that it is the outcome of. -/
theorem Tells.outcome (tells : p.Tells readings) (room : p.duplicates < p.messages)
    (duplicate : Bool) (rate : α) : (p.settle duplicate rate).1.Tells readings := by
  obtain ⟨blacklisted, blacklistReason, settled⟩ := p.settle_fst duplicate rate
  rw [settled]
  refine ⟨tells.messages, ?_, rfl, tells.latest, tells.previous⟩
  show (if duplicate then p.duplicates + 1 else p.duplicates) ≤ p.messages
  split <;> omega

theorem Tells.derived (tells : p.Tells readings) (some : readings ≠ []) : p.Derived readings := by
  have counted := tells.messages
  have positive : 0 < readings.length := List.length_pos_iff.2 some
  refine ⟨by omega, tells.fewer, ?_, counted, ?_, tells.previous.symm, ?_⟩
  · rw [tells.rate, Scalar.share_of_pos (by omega)]
  · have first : readings[0]? = .some readings[0] := List.getElem?_eq_getElem positive
    rw [first, tells.latest _ first]
  · rw [tells.previous, isSome_getElem?]
    omega

end Peer

/-- What a call notes of a peer is one counted message, if anything. -/
theorem Engine.tells_after {e : Engine α} {p : Peer α} {readings : List Nat}
    (tells : p.Tells readings) (rate : α) (now : Nat) (call : Call) (peer : String) :
    (p.after rate (e.notes now call peer)).Tells
      (if (e.notes now call peer).isEmpty then readings else now :: readings) := by
  rcases e.notes_cases now call peer with ⟨_, notes | notes⟩ | ⟨duplicate, _, notes⟩
  · rw [notes]
    exact tells
  · rw [notes]
    exact tells.activity now
  · rw [notes]
    exact (tells.activity now).outcome (Nat.lt_succ_of_le tells.fewer) duplicate rate

variable {c : Config α} {opened : Nat} {past : List (Step α)} {e : Engine α}

/-- What is known of a peer tells of the messages since its record was created, if there is one. -/
theorem Run.known_tells (run : Run c opened past e) (peer : String) :
    (e.known peer).Tells (countedAt peer past) ∧
      ((e.peers.get? peer).isSome = true ↔ countedAt peer past ≠ []) := by
  induction run with
  | start started =>
    obtain ⟨ordered, rfl⟩ := Engine.start_assemble started
    refine ⟨Peer.tells_newcomer _ peer, iff_of_false ?_ (fun some => some rfl)⟩
    exact Bool.false_ne_true
  | @call past e gate now call reply before reordered performed ih =>
    obtain ⟨tells, stored⟩ := ih
    have known := before.known_after reordered performed peer
    have record := (Engine.perform_records performed peer).1
    have counts := Step.counts_eq ⟨gate, now, call, reply⟩ peer
    have same : gate.known peer = e.known peer ∧ gate.peers = e.peers := by
      obtain ⟨store, _, rfl⟩ := reordered
      exact ⟨rfl, rfl⟩
    rw [same.1] at known
    rw [Engine.noted, same.1, same.2] at record
    dsimp only at counts
    unfold countedAt
    dsimp only
    by_cases forgets : gate.forgets now call peer = true
    · rw [if_pos forgets] at known record
      rw [known, record]
      exact ⟨Peer.tells_newcomer _ peer, by simp⟩
    rw [if_neg forgets] at known record
    have now_tells := gate.tells_after tells c.learningRate now call peer
    rw [known, counts]
    cases silent : (gate.notes now call peer).isEmpty with
    | false =>
      rw [silent] at now_tells record
      rw [record]
      exact ⟨now_tells, by simp⟩
    | true =>
      -- A call that counts nothing for the peer leaves the record, or its absence.
      rw [silent] at now_tells record
      rw [record]
      have kept : (if (e.peers.get? peer).isNone = true then [] else countedAt peer past) =
          countedAt peer past := by
        split
        · rename_i unknown
          by_contra some
          exact absurd (stored.2 (Ne.symm some)) (by simpa using unknown)
        · rfl
      simp only [if_true, Bool.not_true, Bool.false_eq_true, if_false, kept]
      exact ⟨now_tells, stored⟩

theorem Run.traffic_derived (run : Run c opened past e) :
    ∀ messageType t, e.traffic.get? messageType = some t → t.Derived := by
  induction run with
  | start started =>
    obtain ⟨ordered, rfl⟩ := Engine.start_assemble started
    intro messageType t stored
    cases stored
  | call before reordered performed ih =>
    obtain ⟨store, _, rfl⟩ := reordered
    exact Engine.perform_derives performed ih

/-- Derived fields never go stale. Whatever calls came, at whatever readings of the clock, every
type has seen a message, has at most as many duplicates and the share of these; every peer likewise,
and its record has the readings of its latest two counted messages, the earlier one exactly where
there are two. -/
theorem Run.derived_fields (run : Run c opened past e) :
    (∀ messageType t, e.traffic.get? messageType = some t → t.Derived) ∧
      ∀ peer record, e.peers.get? peer = some record → record.Derived (countedAt peer past) := by
  refine ⟨run.traffic_derived, fun peer record found => ?_⟩
  obtain ⟨tells, stored⟩ := run.known_tells peer
  have known : e.known peer = record := by rw [Engine.known, found, Option.getD_some]
  rw [known] at tells
  exact tells.derived (stored.1 (by rw [found]; rfl))

/-- A peer repeats itself, is forgotten, repeats itself once more and is reported as active, all
this at readings of the clock that go back. -/
def forgottenCalls : List (Nat × Call) :=
  [(5, .message floodMessage), (3, .message floodMessage), (1000, .cleanup),
    (900, .message floodMessage), (700, .activity "p")]

theorem derived_fields_forgotten : ∃ (past : List (Step Rat)) (e : Engine Rat)
    (t : Traffic Rat) (record : Peer Rat),
    @Run Rat decayingScalar (@forgetfulConfig Rat decayingScalar) 0 past e ∧
      e.traffic.get? "t" = some t ∧ @Traffic.Derived Rat decayingScalar t ∧
      t.seen = 3 ∧ t.duplicates = 2 ∧
      e.peers.get? "p" = some record ∧ countedAt "p" past = [700, 900] ∧
      @Peer.Derived Rat decayingScalar record [700, 900] ∧ record.duplicates = 1 := by
  let _ := decayingScalar
  have usable : (forgetfulConfig Rat).problem? = none := by decide +kernel
  have traced : ((Engine.assemble (forgetfulConfig Rat)
      (Config.minTtl_le_maxTtl_ofTier (α := Rat) .business) 0).engine.trace
        forgottenCalls).toOption.any (fun past =>
          decide (countedAt "p" past = [700, 900]) && past.head?.any fun step =>
            (step.reply.engine.traffic.get? "t").any (fun t => t.seen == 3 && t.duplicates == 2) &&
            (step.reply.engine.peers.get? "p").any fun record => record.duplicates == 1) =
              true := by
    decide +kernel
  obtain ⟨past, e, run, _, facts⟩ := Run.of_trace usable traced
  obtain ⟨counted, last⟩ := Bool.and_eq_true_iff.1 facts
  cases run with
  | start => cases last
  | @call past e gate now call reply before reordered performed =>
    simp only [List.head?_cons, Option.any_some, Bool.and_eq_true] at last
    obtain ⟨typed, known⟩ := last
    obtain ⟨t, stored, counts⟩ := (Option.any_eq_true _ _).1 typed
    obtain ⟨record, found, repeated⟩ := (Option.any_eq_true _ _).1 known
    have derived := (before.call reordered performed).derived_fields
    have counted := of_decide_eq_true counted
    simp only [Bool.and_eq_true, beq_iff_eq] at counts repeated
    exact ⟨_, _, t, record, before.call reordered performed, stored, derived.1 "t" t stored,
      counts.1, counts.2, found, counted, counted ▸ derived.2 "p" record found, repeated⟩

end GossipGate
