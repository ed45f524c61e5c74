import GossipGate.Proofs.Averages
import GossipGate.Proofs.Throughout

namespace GossipGate

variable {α : Type} [Scalar α]

open Scalar

/-- More changes than a run of less than 2^64 calls makes. -/
abbrev mostChanges : Nat := 2 ^ 67

/-- Whether numbers that are counted or measured up to this one keep a value in every formula. Exact
numbers always do. -/
def Scalar.Counts (α : Type) [Scalar α] (count : Nat) : Prop :=
  (∀ x : α, ∃ v, value? x = some v) ∨ count ≤ mostChanges

theorem Scalar.Counts.mono {few many : Nat} (counts : Counts α many) (le : few ≤ many) :
    Counts α few :=
  counts.imp_right le.trans

/-- The numbers of an entry lie where they should. -/
structure Entry.Ranged (count : Nat) (entry : Entry α) : Prop where
  seen : 1 ≤ entry.seenCount
  seldom : entry.seenCount ≤ count
  confidence : Inside 0.1 1.0 entry.confidence
  priority : 1 ≤ entry.priority ∧ entry.priority ≤ 15

/-- The numbers of a peer lie where they should. -/
structure Peer.Ranged (count : Nat) (p : Peer α) : Prop where
  messages : p.messages ≤ count
  duplicates : p.duplicates ≤ count
  score : Inside 0.0 1.0 p.score

theorem entryPriority_range (profile : Profile) (messageType : String) (trust : Option Trust)
    (requested : Option UInt8) : 1 ≤ entryPriority profile messageType trust requested ∧
      entryPriority profile messageType trust requested ≤ 15 := by
  unfold entryPriority
  split
  · dsimp only
    omega
  · omega

variable {e : Engine α} {now : Nat} {m : Message} {count : Nat} {p : Peer α} {entry : Entry α}

theorem Entry.Ranged.mono {many : Nat} (ranged : entry.Ranged count) (le : count ≤ many) :
    entry.Ranged many :=
  { ranged with seldom := ranged.seldom.trans le }

theorem Peer.Ranged.mono {many : Nat} (ranged : p.Ranged count) (le : count ≤ many) :
    p.Ranged many :=
  { ranged with messages := ranged.messages.trans le, duplicates := ranged.duplicates.trans le }

theorem Peer.Ranged.recordActivity (ranged : p.Ranged count) (now : Nat) :
    (p.recordActivity now).Ranged (count + 1) where
  messages := Nat.succ_le_succ ranged.messages
  duplicates := ranged.duplicates.trans (Nat.le_succ count)
  score := ranged.score

variable [RoundedScalar α]

theorem Peer.ranged_fresh (id : String) (now : Nat) :
    (Peer.fresh id now : Peer α).Ranged count where
  messages := Nat.zero_le _
  duplicates := Nat.zero_le _
  score := ⟨⟨1, value?_one⟩, (RoundedScalar.le_iff value?_zero value?_one).2 zero_le_one,
    (RoundedScalar.le_iff value?_one value?_one).2 le_rfl⟩

theorem Peer.Ranged.scored (ranged : p.Ranged count) {rate : α} (weight : UpTo 0 rate)
    (few : Counts α (count + 1)) (duplicate : Bool) :
    (p.scored duplicate rate).Ranged (count + 1) := by
  have counted : (if duplicate then p.duplicates + 1 else p.duplicates) ≤ count + 1 := by
    have own := ranged.duplicates
    split <;> omega
  have messages := ranged.messages
  refine ⟨messages.trans (Nat.le_succ count), counted, ?_⟩
  rcases few with exact | few
  · exact inside_clamp value?_zero value?_one zero_le_one (exact _)
  · have share : Within 67 (share (if duplicate then p.duplicates + 1 else p.duplicates)
        p.messages : α) :=
      within_share (counted.trans few) ((Nat.le_succ_of_le messages).trans few) (by norm_num)
    have score := ranged.score.unit value?_zero le_rfl
    exact inside_nextScore score.within share weight.within (by norm_num) duplicate

theorem Peer.Ranged.settle (ranged : p.Ranged count) {rate : α} (weight : UpTo 0 rate)
    (few : Counts α (count + 1)) (duplicate : Bool) :
    (p.settle duplicate rate).1.Ranged (count + 1) := by
  have scored := ranged.scored weight few duplicate
  unfold Peer.settle
  dsimp only
  split
  · exact ⟨scored.messages, scored.duplicates, scored.score⟩
  · exact scored

namespace Engine

/-- All numbers of a gate lie where they should after some changes. -/
structure Ranged (count : Nat) (e : Engine α) : Prop where
  rate : UpTo 0 e.tuning.learningRate
  peers : ∀ peer record, e.peers.get? peer = some record → record.Ranged count
  held : ∃ items, e.store.Holds items ∧ 0 < e.store.capacity ∧ items.length ≤ e.store.capacity
  entries : ∀ key entry, e.store.get? key = some entry → entry.Ranged count

omit [RoundedScalar α] in
theorem Ranged.mono {many : Nat} (ranged : e.Ranged count) (le : count ≤ many) :
    e.Ranged many where
  rate := ranged.rate
  peers peer record found := (ranged.peers peer record found).mono le
  held := ranged.held
  entries key entry found := (ranged.entries key entry found).mono le

omit [RoundedScalar α] in
theorem Ranged.throughout (ranged : e.Ranged count) :
    e.Throughout (Peer.Ranged count) (Entry.Ranged count) :=
  ⟨ranged.peers, ranged.held, ranged.entries⟩

omit [RoundedScalar α] in
theorem Throughout.ranged (all : e.Throughout (Peer.Ranged count) (Entry.Ranged count))
    (rate : UpTo 0 e.tuning.learningRate) : e.Ranged count :=
  ⟨rate, all.peers, all.held, all.entries⟩

omit [RoundedScalar α] in
theorem Ranged.congr {gate : Engine α} (ranged : e.Ranged count) (tuning : gate.tuning = e.tuning)
    (peers : gate.peers = e.peers) (store : gate.store = e.store) : gate.Ranged count :=
  (ranged.throughout.congr peers store).ranged (tuning ▸ ranged.rate)

omit [RoundedScalar α] in
theorem Ranged.insert (ranged : e.Ranged count) (peer : String) {record : Peer α}
    (own : record.Ranged count) :
    ({ e with peers := e.peers.insert peer record } : Engine α).Ranged count :=
  (ranged.throughout.insert peer own).ranged ranged.rate

theorem Ranged.peerRecord (ranged : e.Ranged count) (peer : String) (now : Nat) :
    (e.peerRecord peer now).Ranged count := by
  have fresh : (Peer.fresh peer now : Peer α).Ranged count := Peer.ranged_fresh peer now
  unfold Engine.peerRecord
  cases found : e.peers.get? peer with
  | some known => exact ranged.peers peer known found
  | none =>
    dsimp only
    split
    · exact ⟨fresh.messages, fresh.duplicates, fresh.score⟩
    · exact fresh

theorem Ranged.meet (ranged : e.Ranged count) (peer : String) (now : Nat) :
    (e.meet peer now).1.Ranged (count + 1) := by
  unfold Engine.meet
  split
  · exact (ranged.mono (Nat.le_succ count)).insert peer ((ranged.peerRecord peer now).recordActivity
      now)
  · exact ranged.mono (Nat.le_succ count)

theorem Ranged.judge (ranged : e.Ranged count) (few : Counts α (count + 1)) (peer : String)
    (duplicate : Bool) : (e.judge peer duplicate).1.Ranged (count + 1) := by
  unfold Engine.judge
  cases found : e.peers.get? peer with
  | none => exact ranged.mono (Nat.le_succ count)
  | some record =>
    exact (ranged.mono (Nat.le_succ count)).insert peer
      ((ranged.peers peer record found).settle ranged.rate few duplicate)

theorem Ranged.ownerScore (ranged : e.Ranged count) (entry : Entry α) :
    ∀ s, e.ownerScore? entry = some s → Within 0 s := by
  intro s known
  unfold ownerScore? at known
  split at known
  · obtain ⟨record, found, rfl⟩ := Option.map_eq_some_iff.1 known
    exact ((ranged.peers _ record found).score.unit value?_zero le_rfl).within
  · cases known

theorem Ranged.sightAgain (ranged : e.Ranged count) (decays : ExpDecays α)
    (few : Counts α (count + 1)) (reading : Counts α now) (own : entry.Ranged count) :
    (e.sightAgain now entry).Ranged (count + 1) := by
  obtain ⟨q, lower, positive, le_one⟩ := value?_tenth (α := α)
  have more : (entry.touch now).Ranged (count + 1) :=
    ⟨Nat.le_succ_of_le own.seen, Nat.succ_le_succ own.seldom, own.confidence, own.priority⟩
  have confidence : Inside 0.1 1.0 (Confidence.updated entry.confidence (entry.seenCount + 1)
      (now - entry.firstSeen) (e.ownerScore? entry)) := by
    rcases few with exact | few
    · exact inside_clamp lower value?_one le_one (exact _)
    rcases reading with exact | reading
    · exact inside_clamp lower value?_one le_one (exact _)
    · exact Confidence.inside_updated decays (own.confidence.unit lower positive).within
        (more.seldom.trans few) ((Nat.sub_le _ _).trans reading) (by norm_num)
        (ranged.ownerScore entry)
  unfold Engine.sightAgain
  dsimp only
  split
  · exact ⟨more.seen, more.seldom, confidence, more.priority⟩
  · exact more

theorem Ranged.tracked {a : Arrival α} (ranged : a.engine.Ranged count) (decays : ExpDecays α)
    (few : Counts α (count + 1)) (reading : Counts α now)
    (known : ∀ record, a.scorer = some record → a.engine.peers.get? m.peer = some record) :
    (a.engine.withStore (lookUp now a m).store).Ranged (count + 1) := by
  have confidence : Inside 0.1 1.0 (a.engine.sighting a m).confidence := by
    show Inside 0.1 1.0 (if a.engine.profile.confidenceScoring then
      Confidence.initial m.hash m.messageType (a.scorer.map Peer.score) m.metadata.bytes else 1.0)
    split
    · refine Confidence.inside_initial _ _ ?_ _
      intro score scored
      obtain ⟨record, own, rfl⟩ := Option.map_eq_some_iff.1 scored
      exact ((ranged.peers _ record (known record own)).score.unit value?_zero le_rfl).within
    · exact inside_one
  have tracked := ranged.throughout.tracked (Q := Entry.Ranged (count + 1))
    (fun _ own => own.mono (Nat.le_succ count))
    (fun _ own => ranged.sightAgain decays few reading own)
    (fun _ own => ⟨le_rfl, Nat.succ_le_succ (Nat.zero_le count), confidence, own.priority⟩)
    fun _ => ⟨le_rfl, Nat.succ_le_succ (Nat.zero_le count), confidence, entryPriority_range _ _ _ _⟩
  exact ⟨ranged.rate, (ranged.mono (Nat.le_succ count)).peers, tracked.held, tracked.entries⟩

omit [RoundedScalar α] in
theorem Ranged.retiered (ranged : e.Ranged count) (now : Nat) (tier : Tier) :
    ({ e with profile := .ofTier tier, store := (e.shrunk now tier).1 } :
      Engine α).Ranged count :=
  (ranged.throughout.retiered now tier).ranged ranged.rate

omit [RoundedScalar α] in
theorem Ranged.cleanup (ranged : e.Ranged count) (now : Nat) :
    (e.cleanup now).engine.Ranged count :=
  (ranged.throughout.cleanup now).ranged ranged.rate

omit [RoundedScalar α] in
theorem Ranged.reordered {gate : Engine α} (ranged : e.Ranged count)
    (reordered : e.Reordered gate) : gate.Ranged count := by
  refine (ranged.throughout.reordered reordered).ranged ?_
  obtain ⟨store, _, rfl⟩ := reordered
  exact ranged.rate

theorem Ranged.moves (ranged : e.Ranged count) (decays : ExpDecays α)
    (few : Counts α (count + 1)) (reading : Counts α now) {last : Engine α}
    (moves : e.Moves now last) : last.Ranged (count + 1) := by
  have later := ranged.mono (Nat.le_succ count)
  cases moves with
  | noted | measured | repeated => exact later.congr rfl rfl rfl
  | met _ peer => exact ranged.meet peer now
  | judged _ peer duplicate => exact ranged.judge few peer duplicate
  | tracked a m known => exact ranged.tracked decays few reading known
  | retiered _ shrinks =>
    rw [← shrinks]
    exact later.retiered now _
  | adjusted done =>
    obtain ⟨_, _, _, _, same⟩ := adjustTtl_fst done
    rw [same]
    exact later.congr rfl rfl rfl

end Engine

variable {c : Config α} {opened : Nat} {past : List (Step α)}

/-- Along every run the numbers of a gate lie where they should: scores in [0, 1], confidence in
[0.1, 1] and priorities in [1, 15]. The counts are bounded by the number of changes so far. -/
theorem Run.ranged_changes (run : Run c opened past e) (decays : ExpDecays α)
    (clocks : ∀ step ∈ past, Counts α step.now) (few : Counts α (7 * past.length)) :
    e.Ranged (7 * past.length) := by
  refine run.keeps (fun count e => Counts α count → e.Ranged count) (Counts α) clocks
    ?_ ?_ ?_ ?_ ?_ few
  · intro reply started _
    refine (Engine.throughout_start started).ranged ?_
    have rate := Config.learningRate_upTo (Engine.start_usable started)
    obtain ⟨ordered, rfl⟩ := Engine.start_assemble started
    exact rate
  · intro first many e le ranged enough
    exact (ranged (enough.mono le)).mono le
  · intro count e gate reordered ranged enough
    exact (ranged enough).reordered reordered
  · intro count now e _ ranged enough
    exact (ranged enough).cleanup now
  · intro count now e last reading moves ranged enough
    exact (ranged (enough.mono (Nat.le_succ count))).moves decays enough reading moves

theorem Run.ranged (run : Run c opened past e) (decays : ExpDecays α)
    (clocks : ∀ step ∈ past, step.now < UInt64.size) (few : past.length < UInt64.size) :
    e.Ranged mostChanges := by
  have size : UInt64.size = 2 ^ 64 := rfl
  have changes : 7 * past.length ≤ mostChanges := by
    show 7 * past.length ≤ 2 ^ 67
    omega
  have readings : ∀ step ∈ past, Counts α step.now := by
    intro step member
    have word := clocks step member
    exact Or.inr (show step.now ≤ 2 ^ 67 by omega)
  exact (run.ranged_changes decays readings (Or.inr changes)).mono changes

end GossipGate
