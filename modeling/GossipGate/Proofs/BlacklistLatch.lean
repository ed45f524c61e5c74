import GossipGate.Proofs.Counters
import GossipGate.Proofs.PeerRecords

namespace GossipGate

variable {α : Type} [Scalar α]

/-- Whether a change of the metrics counts a peer that was put on the blacklist. -/
def Sample.countsListing (sample : Sample α) : Bool :=
  sample.metric = .peersBlacklisted && sample.value.isNone

theorem Event.countP_listings (event : Event α) :
    event.samples.countP Sample.countsListing = event.latched?.toList.length := by
  cases event with
  | ttlAdjusted tier rate old change =>
    obtain ⟨ttl, direction⟩ := change
    cases direction <;> rfl
  | suppressed tier messageType reason => cases reason <;> rfl
  | _ => rfl

/-- The metrics count the peers that events tell to be on the blacklist from now on. -/
theorem countP_listings (events : List (Event α)) :
    (events.flatMap Event.samples).countP Sample.countsListing = (latches events).length := by
  induction events with
  | nil => rfl
  | cons event rest ih =>
    rw [List.flatMap_cons, List.countP_append, event.countP_listings, ih, latches, latches,
      List.filterMap_cons]
    cases event.latched? with
    | none => exact Nat.zero_add _
    | some peer => exact Nat.add_comm 1 _

theorem countP_samples_listings (past : List (Step α)) :
    (samples past).countP Sample.countsListing =
      (past.flatMap fun step => latches step.reply.events).length := by
  induction past with
  | nil => rfl
  | cons step past ih =>
    rw [samples] at ih ⊢
    rw [List.flatMap_cons, List.flatMap_cons, List.countP_append, List.length_append,
      countP_listings, ih]

namespace Engine

variable {e : Engine α} {now : Nat}

/-- Whether there is a blacklisted record of a peer. -/
def isListed (e : Engine α) (peer : String) : Bool := (e.peers.get? peer).any Peer.blacklisted

theorem isListed_eq (e : Engine α) (peer : String) :
    e.isListed peer = (e.known peer).blacklisted := by
  unfold isListed known
  cases e.peers.get? peer <;> rfl

theorem noted_blacklisted (call : Call) (peer : String) :
    (e.noted now call peer).any Peer.blacklisted =
      ((e.known peer).after e.tuning.learningRate (e.notes now call peer)).blacklisted := by
  unfold noted
  cases e.notes now call peer with
  | nil => exact e.isListed_eq peer
  | cons note later => rfl

theorem trips_of_forgets {call : Call} {peer : String} (forgets : e.forgets now call peer = true) :
    e.trips now call peer = 0 := by
  cases call with
  | cleanup => rfl
  | message | activity | setTier | close => cases forgets

end Engine

namespace Step

/-- Whether a call removes a blacklisted record of a peer. -/
def drops (step : Step α) (peer : String) : Bool :=
  step.before.forgets step.now step.call peer && step.before.isListed peer

end Step

/-- A record comes on the blacklist where that is told, and goes from it with a cleanup only. -/
theorem Engine.perform_latches {e : Engine α} {now : Nat} {call : Call} {reply : Reply α Answer}
    (performed : e.perform now call = .ok reply) (peer : String) :
    (latches reply.events).count peer + (if e.isListed peer then 1 else 0) =
      (if Step.drops ⟨e, now, call, reply⟩ peer then 1 else 0) +
        if reply.engine.isListed peer then 1 else 0 := by
  obtain ⟨record, told⟩ := perform_records performed peer
  rw [told, isListed, isListed, record, Step.drops]
  cases forgets : e.forgets now call peer with
  | true =>
    rw [trips_of_forgets forgets]
    exact (Nat.zero_add _).trans (Nat.add_zero _).symm
  | false =>
    have before : (e.peers.get? peer).any Peer.blacklisted = _ := e.isListed_eq peer
    rw [before]
    simp only [Bool.false_and, Bool.false_eq_true, if_false, Nat.zero_add, noted_blacklisted]
    exact Peer.countP_tripped (e.notes now call peer)

/-- How the blacklist and its counter work in a gate with some settings, after some calls. -/
structure Engine.Latched (c : Config α) (past : List (Step α)) (e : Engine α) : Prop where
  counted : (samples past).countP Sample.countsListing =
    (past.flatMap fun step => latches step.reply.events).length
  tripped : ∀ step ∈ past, ∀ peer,
    (latches step.reply.events).count peer = step.before.trips step.now step.call peer
  once : ∀ peer, (past.flatMap fun step => latches step.reply.events).count peer =
    past.countP (Step.drops · peer) + if e.isListed peer then 1 else 0
  records : ∀ peer, e.peers.get? peer = if (recorded peer past).isEmpty then none
    else some ((e.networks.newcomer peer).after c.learningRate (recorded peer past))

variable {c : Config α} {opened : Nat} {past : List (Step α)} {e : Engine α}

/-- Each record that came on the blacklist was told once: it is still there, or a cleanup removed
it. -/
theorem Run.listed_once (run : Run c opened past e) (peer : String) :
    (past.flatMap fun step => latches step.reply.events).count peer =
      past.countP (Step.drops · peer) + if e.isListed peer then 1 else 0 := by
  induction run with
  | start started =>
    obtain ⟨ordered, rfl⟩ := Engine.start_assemble started
    rfl
  | call _ reordered performed ih =>
    obtain ⟨store, _, rfl⟩ := reordered
    have balance := Engine.perform_latches performed peer
    rw [Engine.isListed, Engine.withStore_peers, ← Engine.isListed] at balance
    rw [List.flatMap_cons, List.count_append, ih, List.countP_cons]
    dsimp only
    omega

theorem Run.latched (run : Run c opened past e) : e.Latched c past := by
  refine ⟨countP_samples_listings past, ?_, run.listed_once, run.records⟩
  exact run.forall_steps fun _ _ _ _ _ performed peer => (Engine.perform_records performed peer).2

/-- A peer is put on the blacklist once, exactly when an outcome first leaves its record with a low
score, mostly duplicates and more than 50 messages. The record of a peer in a gate is that of a new
one with some notes, and the counter goes up once for each record that is put on the blacklist. -/
theorem blacklist_latches :
    (∀ (rate : α) (id : String) (opened : Nat) (trust : Trust) (notes : List Peer.Note),
      Peer.Latches { Peer.fresh id opened with trust } rate notes) ∧
    ∀ (c : Config α) (opened : Nat) (past : List (Step α)) (e : Engine α),
      Run c opened past e → e.Latched c past :=
  ⟨fun rate _ _ _ notes => Peer.latches rfl rfl rate notes, fun _ _ _ _ run => run.latched⟩

/-- A peer floods the gate, is forgotten in a cleanup while the tier is FREE, and floods the gate
again. -/
def relapseCalls : List (Nat × Call) :=
  floodCalls ++ [(1, .setTier "FREE"), (1, .cleanup), (1, .setTier "BUSINESS")] ++
    List.replicate 51 (2, .message floodMessage)

theorem blacklist_latches_relapse : ∃ (past : List (Step Float)) (e : Engine Float),
    Run floodConfig 0 past e ∧ past.countP (Step.drops · "p") = 1 ∧ e.isListed "p" = true ∧
      (past.flatMap fun step => latches step.reply.events).count "p" = 2 ∧
      2 ≤ (samples past).countP Sample.countsListing := by
  have traced : ((Engine.assemble floodConfig
      (Config.minTtl_le_maxTtl floodConfig_usable) 0).engine.trace relapseCalls).toOption.any
        (fun past => past.countP (Step.drops · "p") == 1 &&
          (past.flatMap fun step => latches step.reply.events).count "p" == 2) = true := by
    decide +kernel
  obtain ⟨past, e, run, _, told⟩ := Run.of_trace floodConfig_usable traced
  simp only [Bool.and_eq_true, beq_iff_eq] at told
  obtain ⟨dropped, twice⟩ := told
  have latched := blacklist_latches.2 floodConfig 0 past e run
  refine ⟨past, e, run, dropped, ?_, twice, ?_⟩
  · have once := latched.once "p"
    rw [dropped, twice] at once
    by_contra unlisted
    rw [if_neg unlisted] at once
    cases once
  · rw [latched.counted, ← twice]
    exact List.count_le_length

end GossipGate
