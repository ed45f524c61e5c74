import GossipGate.Proofs.Footprint
import GossipGate.Proofs.GlobalTtl
import GossipGate.Proofs.PeerNotes

namespace GossipGate

variable {α : Type} [Scalar α]

/-- The peer that an event tells to be on the blacklist from now on. -/
def Event.latched? : Event α → Option String
  | .blacklisted _ peer _ _ => some peer
  | _ => none

/-- The peers that some events tell to be on the blacklist from now on, in order. -/
def latches (events : List (Event α)) : List String := events.filterMap Event.latched?

section Lists

omit [Scalar α]

theorem latches_append (first second : List (Event α)) :
    latches (first ++ second) = latches first ++ latches second := List.filterMap_append

theorem latches_eq_nil {events : List (Event α)}
    (others : ∀ event ∈ events, event.latched? = none) : latches events = [] := List.filterMap_eq_nil_iff.2 others

end Lists

/-- The record that a peer starts with. Its clock readings come with the first message. -/
def Networks.newcomer (networks : Networks) (peer : String) : Peer α :=
  { Peer.fresh peer 0 with trust := if networks.trusts peer then .trusted else .medium }

namespace Engine

variable {e : Engine α} {now : Nat} {m : Message} {a : Arrival α}

/-- Whether the gate keeps a record of a peer. -/
def tracks (e : Engine α) (peer : String) : Bool := e.profile.peerTracking && !peer.isEmpty

/-- The record of a peer, or the one that it would start with. -/
def known (e : Engine α) (peer : String) : Peer α :=
  (e.peers.get? peer).getD (e.networks.newcomer peer)

/-- How a message ends for its sender, where that is scored: as a duplicate or as a new entry. One
that starts an expired entry anew counts for neither, nor does one that does not ask the store. -/
def judged? (e : Engine α) (now : Nat) (m : Message) : Option Bool :=
  if e.tracks m.peer && e.profile.reputationScoring then
    match (e.admission? now m).map Admission.outcome with
    | some .duplicate => some true
    | some .inserted => some false
    | _ => none
  else none

theorem judged?_eq_some_iff {duplicate : Bool} : e.judged? now m = some duplicate ↔
    e.tracks m.peer = true ∧ e.profile.reputationScoring = true ∧ m.hash.isEmpty = false ∧
      e.blocks m = false ∧ (e.admission? now m).map Admission.outcome =
        some (if duplicate then .duplicate else .inserted) := by
  constructor
  · intro judged
    unfold judged? at judged
    split at judged
    · rename_i scored
      obtain ⟨tracked, scoring⟩ := Bool.and_eq_true_iff.1 scored
      have outcome : (e.admission? now m).map Admission.outcome =
          some (if duplicate then .duplicate else .inserted) := by
        split at judged
        · rename_i again
          rw [← Option.some.inj judged]
          exact again
        · rename_i first
          rw [← Option.some.inj judged]
          exact first
        · cases judged
      obtain ⟨_, admitted, _⟩ := Option.map_eq_some_iff.1 outcome
      obtain ⟨_, asked, _⟩ := Option.bind_eq_some_iff.1 admitted
      unfold asked? at asked
      split at asked
      · cases asked
      · rename_i asks
        rw [Bool.or_eq_true, not_or, Bool.not_eq_true, Bool.not_eq_true] at asks
        exact ⟨tracked, scoring, asks.1, asks.2, outcome⟩
    · cases judged
  · rintro ⟨tracked, scoring, _, _, outcome⟩
    rw [judged?, tracked, scoring, outcome]
    cases duplicate <;> rfl

/-- How a call ends for a peer, where that is scored. Only its own messages end for it. -/
def judgment? (e : Engine α) (now : Nat) (call : Call) (peer : String) : Option Bool :=
  match call with
  | .message m => if m.peer = peer then e.judged? now m else none
  | _ => none

/-- The notes that a call makes in the record of a peer. -/
def notes (e : Engine α) (now : Nat) (call : Call) (peer : String) : List Peer.Note :=
  match call with
  | .message m =>
    if m.peer = peer && e.tracks peer && !m.hash.isEmpty then
      .activity now :: (e.judged? now m).toList.map .outcome
    else []
  | .activity other => if other = peer && e.tracks peer then [.activity now] else []
  | _ => []

/-- The outcome of a message for its sender, if it has one. -/
def judgeAs (e : Engine α) (peer : String) : Option Bool → Engine α × List (Event α)
  | some duplicate => e.judge peer duplicate
  | none => (e, [])

theorem recordActivity_peerRecord (peer : String) :
    (e.peerRecord peer now).recordActivity now = (e.known peer).recordActivity now := by
  unfold peerRecord known Networks.newcomer
  cases e.peers.get? peer with
  | some record => rfl
  | none =>
    dsimp only [Option.getD_none]
    split <;> simp [Peer.recordActivity, Peer.fresh]

theorem meet_self (peer : String) : (e.meet peer now).1.peers.get? peer =
      (if e.tracks peer then some ((e.known peer).recordActivity now) else e.peers.get? peer) ∧
    (e.meet peer now).2.isSome = e.tracks peer := by
  unfold meet tracks
  rw [recordActivity_peerRecord]
  by_cases tracked : (e.profile.peerTracking && !peer.isEmpty) = true
  · simp [tracked, Table.get?_insert]
  · simp [tracked]

/-- The sender of a message is scored where peers are tracked and scored. -/
theorem arrive_scorer (arrived : e.arrive now m = .ok a) :
    a.scorer.isSome = (e.tracks m.peer && e.profile.reputationScoring) := by
  obtain ⟨measured, _, last⟩ := bind_eq_ok arrived
  cases last
  have met : (({ e with seen := e.seen + 1 } : Engine α).meet m.peer now).2.isSome =
    e.tracks m.peer := (meet_self m.peer).2
  cases scoring : e.profile.reputationScoring with
  | true => simp [met]
  | false => simp

theorem judgeCaller_eq_judgeAs (arrived : e.arrive now m = .ok a) (gate : Engine α)
    (duplicate : Bool) : gate.judgeCaller a m duplicate = gate.judgeAs m.peer
      (if e.tracks m.peer && e.profile.reputationScoring then some duplicate else none) := by
  rw [judgeCaller, arrive_scorer arrived]
  split <;> rfl

/-! ### Only an outcome tells of the blacklist -/

theorem latches_arrive (arrived : e.arrive now m = .ok a) (admission : Admission α) :
    latches (a.events ++ a.engine.evictions admission) = [] := by
  obtain ⟨velocity, events⟩ := (arrive_follows arrived).measured
  rw [events]
  refine latches_eq_nil fun event member => ?_
  rcases List.mem_append.1 member with measured | evicted
  · obtain ⟨_, _, rfl⟩ := List.mem_map.1 measured
    rfl
  · obtain ⟨_, _, rfl⟩ := List.mem_map.1 evicted
    rfl

theorem latches_adjustIfDue {result : Engine α × List (Event α)}
    (done : e.adjustIfDue now = .ok result) : latches result.2 = [] := by
  refine latches_eq_nil fun event member => ?_
  rcases adjustIfDue_cases done with ⟨_, rfl⟩ | ⟨_, adjusted⟩
  · cases member
  rcases adjustTtl_reports adjusted with ⟨rfl, _⟩ | ⟨change, learned, _, _, told⟩
  · cases member
  rw [told] at member
  rcases List.mem_append.1 member with taught | global
  · obtain ⟨_, _, rfl⟩ := List.mem_map.1 taught
    rfl
  · rw [List.mem_singleton.1 global]
    rfl

theorem latches_pass {outcome : Outcome} {reply : Reply α Bool}
    (passed : e.pass now a m outcome = .ok reply) : latches reply.events =
      latches (if outcome = .inserted then e.judgeCaller a m false else (e, [])).2 := by
  obtain ⟨result, adjusted, last⟩ := bind_eq_ok passed
  cases last
  have untracked : latches (if outcome = .dropped then [Event.saturated m.messageType] else
      [] : List (Event α)) = [] := by
    split <;> rfl
  have found : latches ((result.1.anomalies m).map (Event.anomalyFound e.tier)) = [] := by
    refine latches_eq_nil fun event member => ?_
    obtain ⟨_, _, rfl⟩ := List.mem_map.1 member
    rfl
  simp only [latches_append, untracked, latches_adjustIfDue adjusted, found, List.append_nil]

theorem latches_suppress (a : Arrival α) : latches (e.suppress a m).events =
    latches ({ e with
      duplicates := e.duplicates + 1
      traffic := e.traffic.modify m.messageType Traffic.countDuplicate }.judgeCaller a m true).2 := by
  show latches (_ ++ [Event.suppressed e.tier m.messageType .duplicate]) = _
  rw [latches_append]
  exact List.append_nil _

/-! ### One message -/

/-- A message with a hash counts for its sender and ends for it in some way. Nothing else that it
does shows in the records of peers or tells of the blacklist. -/
theorem Receives.judges {reply : Reply α Bool} (receives : e.Receives now m reply)
    (named : m.hash.isEmpty = false) :
    ∃ gate : Engine α, gate.peers = ({ e with seen := e.seen + 1 }.meet m.peer now).1.peers ∧
      gate.tuning = e.tuning ∧
      reply.engine.peers = (gate.judgeAs m.peer (e.judged? now m)).1.peers ∧
      latches reply.events = latches (gate.judgeAs m.peer (e.judged? now m)).2 := by
  have tuning : ∀ a, e.arrive now m = .ok a → a.engine.tuning = e.tuning := fun a arrived =>
    (arrive_hears arrived).1.tuning
  cases receives with
  | nameless nothing =>
    rw [named] at nothing
    cases nothing
  | @blocked arrival _ blocked arrived =>
    have unjudged : e.judged? now m = none := by
      simp [judged?, admission?, asked?, blocked]
    have quiet := latches_arrive arrived ⟨e.store, .dropped, []⟩
    rw [evictions, List.map_nil, List.append_nil] at quiet
    refine ⟨arrival.engine, arrive_peers arrived, tuning _ arrived, ?_, ?_⟩
    · rw [unjudged]
      rfl
    · rw [unjudged, block, latches_append, quiet]
      rfl
  | @suppressed arrival _ unblocked arrived duplicate =>
    have judged : e.judged? now m =
        if e.tracks m.peer && e.profile.reputationScoring then some true else none := by
      rw [judged?, admission?_eq named unblocked arrived, Option.map_some, duplicate]
    let admitted := arrival.engine.withStore (lookUp now arrival m).store
    refine ⟨{ admitted with
      duplicates := admitted.duplicates + 1
      traffic := admitted.traffic.modify m.messageType Traffic.countDuplicate },
      arrive_peers arrived, tuning _ arrived, ?_, ?_⟩
    · rw [judged, ← judgeCaller_eq_judgeAs arrived]
      rfl
    · rw [judged, ← judgeCaller_eq_judgeAs arrived, Reply.after, latches_append,
        latches_arrive arrived, latches_suppress]
      rfl
  | @passed arrival reply _ unblocked arrived other passed =>
    have judged : e.judged? now m = if (lookUp now arrival m).outcome = .inserted then
        if e.tracks m.peer && e.profile.reputationScoring then some false else none else none := by
      rw [judged?, admission?_eq named unblocked arrived, Option.map_some]
      cases outcome : (lookUp now arrival m).outcome with
      | duplicate => exact absurd outcome other
      | refreshed | dropped => simp
      | inserted => simp
    -- Only an insertion is an outcome; an entry that starts anew passes as well and counts for none.
    let admitted := arrival.engine.withStore (lookUp now arrival m).store
    have outcomes : admitted.judgeAs m.peer (e.judged? now m) =
        if (lookUp now arrival m).outcome = .inserted then admitted.judgeCaller arrival m false
        else (admitted, []) := by
      rw [judged]
      split
      · exact (judgeCaller_eq_judgeAs arrived admitted false).symm
      · rfl
    refine ⟨admitted, arrive_peers arrived, tuning _ arrived, ?_, ?_⟩
    · rw [outcomes]
      show reply.engine.peers = _
      exact pass_peers passed
    · rw [outcomes, Reply.after, latches_append, latches_arrive arrived, List.nil_append]
      exact latches_pass passed

/-- An outcome is a note in a record that is there, and tells of the blacklist where that trips. -/
theorem judgeAs_self {peer : String} {record : Peer α} (found : e.peers.get? peer = some record)
    (outcome : Option Bool) : (e.judgeAs peer outcome).1.peers.get? peer =
        some (record.after e.tuning.learningRate (outcome.toList.map .outcome)) ∧
      latches (e.judgeAs peer outcome).2 = List.replicate ((record.course e.tuning.learningRate
        (outcome.toList.map .outcome)).countP Peer.Turn.tripped) peer := by
  cases outcome with
  | none => exact ⟨found, rfl⟩
  | some duplicate =>
    rw [judgeAs, judge, found]
    refine ⟨by simp [Table.get?_insert, Peer.after, Peer.turn], ?_⟩
    cases tripped : (record.settle duplicate e.tuning.learningRate).2
    · simp [latches, Event.latched?, Peer.course, Peer.turn, tripped]
    · simp only [Peer.course, Peer.turn, Option.toList_some, List.map_cons, List.map_nil, tripped,
        List.countP_singleton, if_true]
      rfl

/-- The record of a peer with the notes that a call makes in it. -/
def noted (e : Engine α) (now : Nat) (call : Call) (peer : String) : Option (Peer α) :=
  if (e.notes now call peer).isEmpty then e.peers.get? peer
  else some ((e.known peer).after e.tuning.learningRate (e.notes now call peer))

/-- How often the notes that a call makes put a peer on the blacklist. -/
def trips (e : Engine α) (now : Nat) (call : Call) (peer : String) : Nat :=
  ((e.known peer).course e.tuning.learningRate (e.notes now call peer)).countP Peer.Turn.tripped

theorem Receives.records {reply : Reply α Bool} (receives : e.Receives now m reply)
    (named : m.hash.isEmpty = false) :
    reply.engine.peers.get? m.peer = e.noted now (.message m) m.peer ∧
      latches reply.events = List.replicate (e.trips now (.message m) m.peer) m.peer := by
  obtain ⟨gate, met, tuning, peers, told⟩ := receives.judges named
  have record : gate.peers.get? m.peer = _ :=
    (congrArg (fun peers => peers.get? m.peer) met).trans
      (meet_self (e := { e with seen := e.seen + 1 }) m.peer).1
  rw [peers, told, noted, trips]
  cases tracked : e.tracks m.peer with
  | true =>
    have notes : e.notes now (.message m) m.peer =
        .activity now :: (e.judged? now m).toList.map .outcome := by
      simp [Engine.notes, tracked, named]
    have found : gate.peers.get? m.peer = some ((e.known m.peer).recordActivity now) := by
      rw [record]
      exact if_pos tracked
    rw [notes, ← tuning]
    exact judgeAs_self found (e.judged? now m)
  | false =>
    have notes : e.notes now (.message m) m.peer = [] := by simp [Engine.notes, tracked]
    have unjudged : e.judged? now m = none := by simp [judged?, tracked]
    rw [notes, unjudged]
    refine ⟨record.trans (if_neg ?_), rfl⟩
    rw [Bool.not_eq_true]
    exact tracked

/-! ### Any call -/

/-- Whether a call is a cleanup that finds the record of a peer idle. -/
def forgets (e : Engine α) (now : Nat) (call : Call) (peer : String) : Bool :=
  match call with
  | .cleanup => (e.peers.get? peer).any fun record => record.isIdle now e.tuning.reputationDecay
  | _ => false

theorem latches_upkeep {call : Call} (other : ∀ m, call ≠ .message m) {reply : Reply α Answer}
    (performed : e.perform now call = .ok reply) : latches reply.events = [] := by
  refine latches_eq_nil fun event member => ?_
  cases call with
  | message m => exact absurd rfl (other m)
  | activity peer =>
    obtain rfl := Except.ok.inj performed
    cases member
  | cleanup =>
    obtain rfl := Except.ok.inj performed
    simp only [Reply.map, cleanup] at member
    split at member
    · cases member
    · rw [List.mem_singleton.1 member]
      rfl
  | setTier requested =>
    obtain rfl := Except.ok.inj performed
    rw [setTier_eq] at member
    simp only [Reply.map, retiered, List.mem_append, List.mem_map, List.mem_singleton] at member
    rcases member with (unknown | ⟨_, _, rfl⟩) | rfl
    · unfold Event.ofTierRequest at unknown
      split at unknown
      · rw [List.mem_singleton.1 unknown]
        rfl
      · cases unknown
    · rfl
    · rfl
  | close =>
    obtain rfl := Except.ok.inj performed
    simp only [Reply.map, close] at member
    split at member
    · cases member
    · rw [List.mem_singleton.1 member]
      rfl

/-- All that a call does to the record of a peer: it makes its notes, of which each trip of the
blacklist is told, or it forgets the record. -/
theorem perform_records {call : Call} {reply : Reply α Answer}
    (performed : e.perform now call = .ok reply) (peer : String) :
    reply.engine.peers.get? peer =
        (if e.forgets now call peer then none else e.noted now call peer) ∧
      (latches reply.events).count peer = e.trips now call peer := by
  cases call with
  | message m =>
    obtain ⟨answer, answered, rfl⟩ := perform_message performed
    have receives := receive_receives answered
    cases named : m.hash.isEmpty with
    | true =>
      have silent : e.notes now (.message m) peer = [] := by simp [notes, named]
      rw [noted, trips, silent]
      cases receives with
      | nameless => exact ⟨rfl, rfl⟩
      | blocked other | suppressed other | passed other =>
        rw [named] at other
        cases other
    | false =>
      obtain ⟨record, told⟩ := receives.records named
      by_cases own : m.peer = peer
      · subst own
        exact ⟨record, by rw [Reply.map, told, List.count_replicate_self]⟩
      · have silent : e.notes now (.message m) peer = [] := by simp [notes, own]
        rw [noted, trips, silent]
        refine ⟨receives.peers_other (Ne.symm own), ?_⟩
        rw [Reply.map, told, List.count_replicate, if_neg (by simpa using own)]
        rfl
  | activity other =>
    rw [latches_upkeep (by simp) performed]
    obtain rfl := Except.ok.inj performed
    by_cases own : other = peer
    · subst own
      show (e.meet other now).1.peers.get? other = _ ∧ _
      rw [(meet_self other).1, noted, trips]
      cases tracked : e.tracks other <;>
        simp [notes, tracked, Peer.after, Peer.course, Peer.turn, forgets]
    · have silent : e.notes now (.activity other) peer = [] := by simp [notes, own]
      rw [noted, trips, silent]
      exact ⟨meet_other (Ne.symm own), rfl⟩
  | cleanup =>
    rw [latches_upkeep (by simp) performed]
    obtain rfl := Except.ok.inj performed
    refine ⟨(cleanup_peers e now peer).trans ?_, rfl⟩
    show _ = if (e.peers.get? peer).any _ then none else e.peers.get? peer
    cases e.peers.get? peer with
    | none => rfl
    | some record =>
      rw [Option.filter_some, Option.any_some]
      cases record.isIdle now e.tuning.reputationDecay <;> rfl
  | setTier requested =>
    rw [latches_upkeep (by simp) performed]
    obtain rfl := Except.ok.inj performed
    exact ⟨rfl, rfl⟩
  | close =>
    rw [latches_upkeep (by simp) performed]
    obtain rfl := Except.ok.inj performed
    exact ⟨rfl, rfl⟩

end Engine

/-! ### All calls -/

/-- The notes in the record of a peer after some calls, the latest first. A record that is forgotten
takes them along. -/
def recorded (peer : String) : List (Step α) → List Peer.Note
  | [] => []
  | step :: past =>
    if step.before.forgets step.now step.call peer then []
    else recorded peer past ++ step.before.notes step.now step.call peer

variable {c : Config α} {opened : Nat} {past : List (Step α)} {e gate : Engine α}

/-- What is known of a peer after a call is what was known before with the notes of the call, or
nothing where its record is forgotten. -/
theorem Run.known_after (run : Run c opened past e) (reordered : e.Reordered gate) {now : Nat}
    {call : Call} {reply : Reply α Answer} (performed : gate.perform now call = .ok reply)
    (peer : String) : reply.engine.known peer =
      if gate.forgets now call peer then e.networks.newcomer peer
      else (gate.known peer).after c.learningRate (gate.notes now call peer) := by
  have networks := (run.call reordered performed).networks.trans run.networks.symm
  obtain ⟨store, _, rfl⟩ := reordered
  have rate : (e.withStore store).tuning.learningRate = c.learningRate := run.tuning.2.1
  rw [Engine.known, (Engine.perform_records performed peer).1, networks, Engine.noted, rate]
  split
  · rfl
  · cases (e.withStore store).notes now call peer <;> rfl

/-- The record of a peer is that of a new one with the notes since it was last forgotten, if any. -/
theorem Run.records (run : Run c opened past e) (peer : String) :
    e.peers.get? peer = if (recorded peer past).isEmpty then none
      else some ((e.networks.newcomer peer).after c.learningRate (recorded peer past)) := by
  induction run with
  | start started =>
    obtain ⟨ordered, rfl⟩ := Engine.start_assemble started
    rfl
  | @call past e gate now call reply before reordered performed ih =>
    have tuning := (before.call reordered performed).networks.trans before.networks.symm
    obtain ⟨store, _, rfl⟩ := reordered
    have known : (e.withStore store).known peer =
        (e.networks.newcomer peer).after c.learningRate (recorded peer past) := by
      show (e.peers.get? peer).getD _ = _
      rw [ih]
      cases recorded peer past <;> rfl
    have rate : (e.withStore store).tuning.learningRate = c.learningRate :=
      before.tuning.2.1
    rw [(Engine.perform_records performed peer).1, tuning, recorded, Engine.noted, known,
      rate, ← Peer.after_append]
    dsimp only
    split
    · rfl
    · cases (e.withStore store).notes now call peer with
      | nil =>
        rw [List.append_nil]
        exact ih
      | cons note later => simp

end GossipGate
