import GossipGate.Metrics.Samples
import GossipGate.Proofs.Faults
import GossipGate.Proofs.Footprint
import GossipGate.Proofs.Ranges

namespace GossipGate

/-- No value of a table counts for more than all of them. -/
theorem Table.le_total {κ ν : Type} [DecidableEq κ] {t : Table κ ν} {key : κ} {value : ν}
    (found : t.get? key = some value) (count : ν → Nat) : count value ≤ t.total count := by
  have member : value ∈ t.values := List.mem_map.2 ⟨_, Table.mem_entries_iff.2 found, rfl⟩
  exact List.le_sum_of_mem (List.mem_map_of_mem member)

variable {α : Type} {s : Store α} {items : List (Key × Entry α)} {now n : Nat} {m : Message}

/-- Entries have numbers of their own below the next one. -/
theorem Store.Holds.size_le_nextSeq (holds : s.Holds items) : s.size ≤ s.nextSeq := by
  have distinct : (items.map fun item => item.2.seq).Nodup :=
    (List.pairwise_map.2 holds.sorted).imp Nat.ne_of_lt
  have issued : (items.map fun item => item.2.seq) ⊆ List.range s.nextSeq := by
    intro seq member
    obtain ⟨item, stored, rfl⟩ := List.mem_map.1 member
    exact List.mem_range.2 (holds.issued item stored)
  have fewer := (distinct.subperm issued).length_le
  rw [List.length_map, List.length_range] at fewer
  exact holds.size_eq.trans_le fewer

theorem Store.nextSeq_insert? {key : Key} {entry : Entry α} {stored : Store α}
    (inserted : s.insert? key entry = some stored) : stored.nextSeq = s.nextSeq + 1 := by
  unfold insert? at inserted
  split at inserted
  · cases inserted
    rfl
  · cases inserted

namespace Engine

/-- No record of a peer counts more messages or duplicates. -/
def PeersTo (messages duplicates : Nat) (e : Engine α) : Prop :=
  ∀ peer p, e.peers.get? peer = some p → p.messages ≤ messages ∧ p.duplicates ≤ duplicates

/-- No record of a peer and no entry counts for more, and no more entries were ever inserted. -/
structure RecordsTo (n : Nat) (e : Engine α) : Prop where
  peers : e.PeersTo n n
  entries : ∀ key entry, e.store.get? key = some entry → entry.seenCount ≤ n
  issued : e.store.nextSeq ≤ n

/-- The counts of all messages and all duplicates, at large and of all types together. -/
structure TotalsTo (n : Nat) (e : Engine α) : Prop where
  ordered : e.duplicates ≤ e.seen
  seen : e.seen ≤ n
  all : e.traffic.total Traffic.seen ≤ n
  repeated : e.traffic.total Traffic.duplicates ≤ n

/-- No count of a gate is above a number. -/
structure CountsTo (n : Nat) (e : Engine α) : Prop extends RecordsTo n e where
  seen : e.seen ≤ n
  duplicates : e.duplicates ≤ n
  types : ∀ messageType t, e.traffic.get? messageType = some t → t.seen ≤ n ∧ t.duplicates ≤ n
  size : e.store.size ≤ n

variable {e gate : Engine α} {messages duplicates : Nat}

theorem PeersTo.mono {moreMessages moreDuplicates : Nat} (known : e.PeersTo messages duplicates)
    (le : messages ≤ moreMessages) (le' : duplicates ≤ moreDuplicates) :
    e.PeersTo moreMessages moreDuplicates := fun peer p found =>
  ⟨(known peer p found).1.trans le, (known peer p found).2.trans le'⟩

theorem PeersTo.congr (known : e.PeersTo messages duplicates) (same : gate.peers = e.peers) :
    gate.PeersTo messages duplicates := by
  unfold PeersTo
  rw [same]
  exact known

theorem PeersTo.insert (known : e.PeersTo messages duplicates) (peer : String) {p : Peer α}
    (own : p.messages ≤ messages ∧ p.duplicates ≤ duplicates) :
    ({ e with peers := e.peers.insert peer p } : Engine α).PeersTo messages duplicates :=
  Table.forall_insert known peer own

theorem RecordsTo.mono {more : Nat} (records : e.RecordsTo n) (le : n ≤ more) :
    e.RecordsTo more where
  peers := records.peers.mono le le
  entries key entry found := (records.entries key entry found).trans le
  issued := records.issued.trans le

theorem RecordsTo.reordered (records : e.RecordsTo n) (holds : e.store.Holds items)
    (reordered : e.Reordered gate) : gate.RecordsTo n := by
  obtain ⟨store, same, rfl⟩ := reordered
  refine ⟨records.peers, fun key entry found => ?_, same.nextSeq.trans_le records.issued⟩
  exact records.entries key entry
    (holds.get?_of_subset (holds.reordered same) (List.Subset.refl _) found)

theorem CountsTo.reordered (counts : e.CountsTo n) (holds : e.store.Holds items)
    (reordered : e.Reordered gate) : gate.CountsTo n := by
  have records := counts.toRecordsTo.reordered holds reordered
  obtain ⟨store, same, rfl⟩ := reordered
  exact ⟨records, counts.seen, counts.duplicates, counts.types, same.size.trans_le counts.size⟩

theorem CountsTo.mono {more : Nat} (counts : e.CountsTo n) (le : n ≤ more) : e.CountsTo more where
  toRecordsTo := counts.toRecordsTo.mono le
  seen := counts.seen.trans le
  duplicates := counts.duplicates.trans le
  types messageType t found :=
    ⟨(counts.types messageType t found).1.trans le, (counts.types messageType t found).2.trans le⟩
  size := counts.size.trans le

variable [Scalar α]

theorem PeersTo.meet (known : e.PeersTo messages duplicates) (peer : String) (now : Nat) :
    (e.meet peer now).1.PeersTo (messages + 1) duplicates := by
  have record : (e.peerRecord peer now).messages ≤ messages ∧
      (e.peerRecord peer now).duplicates ≤ duplicates := by
    unfold Engine.peerRecord
    cases found : e.peers.get? peer with
    | some p => exact known peer p found
    | none =>
      dsimp only
      split <;> exact ⟨Nat.zero_le _, Nat.zero_le _⟩
  have later := known.mono (Nat.le_succ messages) le_rfl
  unfold Engine.meet
  split
  · exact later.insert peer ⟨Nat.succ_le_succ record.1, record.2⟩
  · exact later

theorem PeersTo.judge (known : e.PeersTo messages duplicates) (peer : String) (duplicate : Bool) :
    (e.judge peer duplicate).1.PeersTo messages (duplicates + 1) := by
  have later := known.mono le_rfl (Nat.le_succ duplicates)
  unfold Engine.judge
  cases found : e.peers.get? peer with
  | none => exact later
  | some p =>
    obtain ⟨few, repeated⟩ := known peer p found
    refine later.insert peer ?_
    unfold Peer.settle
    dsimp only
    split
    all_goals
      refine ⟨few, ?_⟩
      unfold Peer.scored
      dsimp only
      split <;> omega

theorem PeersTo.judgeCaller (known : e.PeersTo messages duplicates) (a : Arrival α) (m : Message)
    (duplicate : Bool) :
    (e.judgeCaller a m duplicate).1.PeersTo messages (duplicates + 1) := by
  unfold Engine.judgeCaller
  split
  · exact known.judge m.peer duplicate
  · exact known.mono le_rfl (Nat.le_succ duplicates)

theorem PeersTo.arrive (known : e.PeersTo messages duplicates) {a : Arrival α}
    (arrived : e.arrive now m = .ok a) : a.engine.PeersTo (messages + 1) duplicates :=
  (PeersTo.meet (e := { e with seen := e.seen + 1 }) known m.peer now).congr (arrive_peers arrived)

/-- A message counts once for its sender, and as a duplicate at most once. -/
theorem Receives.peersTo {reply : Reply α Bool} (receives : e.Receives now m reply)
    (known : e.PeersTo messages duplicates) :
    reply.engine.PeersTo (messages + 1) (duplicates + 1) := by
  cases receives with
  | nameless => exact known.mono (Nat.le_succ _) (Nat.le_succ _)
  | blocked _ _ arrived => exact (known.arrive arrived).mono le_rfl (Nat.le_succ _)
  | @suppressed arrival _ _ arrived _ =>
    let counted : Engine α :=
      { arrival.engine with
        store := (lookUp now arrival m).store
        duplicates := arrival.engine.duplicates + 1
        traffic := arrival.engine.traffic.modify m.messageType Traffic.countDuplicate }
    have met : counted.PeersTo (messages + 1) duplicates := known.arrive arrived
    exact met.judgeCaller arrival m true
  | @passed arrival reply _ _ arrived _ passed =>
    let admitted := arrival.engine.withStore (lookUp now arrival m).store
    have met : admitted.PeersTo (messages + 1) duplicates := known.arrive arrived
    show reply.engine.PeersTo (messages + 1) (duplicates + 1)
    refine PeersTo.congr ?_ (pass_peers passed)
    split
    · exact met.judgeCaller arrival m false
    · exact met.mono le_rfl (Nat.le_succ _)

end Engine

/-! ### Entries -/

variable [Scalar α] {e : Engine α}

theorem Admits.nextSeq_le {seen : Sighting α} {admission : Admission α}
    (admits : Admits e now seen s items admission) : admission.store.nextSeq ≤ s.nextSeq + 1 := by
  cases admits with
  | duplicate | refreshed => exact Nat.le_succ _
  | inserted _ inserts => exact (Store.nextSeq_insert? inserts).le
  | replaced _ _ takes inserts => rw [Store.nextSeq_insert? inserts, takes.nextSeq]

/-- What an admission evicts was there before it. -/
theorem Admits.evicted_le {seen : Sighting α} {admission : Admission α}
    (admits : Admits e now seen s items admission) (holds : s.Holds items) :
    admission.evicted.length ≤ s.size := by
  cases admits with
  | duplicate | refreshed | inserted => exact Nat.zero_le _
  | replaced _ _ takes _ =>
    rw [holds.size_eq]
    exact List.length_pos_of_mem takes.member

namespace Engine

theorem sightAgain_seenCount (entry : Entry α) :
    (e.sightAgain now entry).seenCount = entry.seenCount + 1 := by
  unfold sightAgain
  dsimp only
  split <;> rfl

theorem evictOne_nextSeq (e : Engine α) (now : Nat) (s : Store α) :
    (e.evictOne now s).left.nextSeq = s.nextSeq := by
  unfold evictOne
  split
  · unfold Store.evictOldest
    split <;> rfl
  · unfold Store.evictLowest
    split <;> rfl

theorem evictMany_nextSeq (e : Engine α) (now count : Nat) (s : Store α) :
    (e.evictMany now count s).1.nextSeq = s.nextSeq := by
  induction count generalizing s with
  | zero => rfl
  | succ count ih =>
    unfold evictMany
    dsimp only
    split
    · exact (ih _).trans (evictOne_nextSeq e now s)
    · exact evictOne_nextSeq e now s

/-- A message counts once for the entry under its key, and inserts at most one. -/
theorem Receives.recordsTo {reply : Reply α Bool} (receives : e.Receives now m reply)
    (records : e.RecordsTo n) (holds : e.store.Holds items) (usable : 0 < e.store.capacity)
    (fits : e.store.size ≤ e.store.capacity) : reply.engine.RecordsTo (n + 1) := by
  have peers := receives.peersTo records.peers
  cases asks : e.asked? m with
  | none =>
    have same := (receives.unasked asks).1
    have kept := records.mono (Nat.le_succ n)
    exact ⟨peers, same ▸ kept.entries, same ▸ kept.issued⟩
  | some key =>
    obtain ⟨a, arrived, _, same, _⟩ := receives.asked asks
    have admits := lookUp_admits holds usable fits arrived
    have entries := admits.entries holds records.entries
      (fun entry few => Nat.le_succ_of_le few)
      (fun entry few => (sightAgain_seenCount entry).trans_le (Nat.succ_le_succ few))
      (fun _ _ => Nat.succ_le_succ (Nat.zero_le n)) fun _ => Nat.succ_le_succ (Nat.zero_le n)
    refine ⟨peers, same ▸ entries, ?_⟩
    rw [same]
    exact admits.nextSeq_le.trans (Nat.succ_le_succ records.issued)

theorem RecordsTo.retiered (records : e.RecordsTo n) (holds : e.store.Holds items) (now : Nat)
    (tier : Tier) :
    ({ e with profile := .ofTier tier, store := (e.shrunk now tier).1 } :
      Engine α).RecordsTo n := by
  obtain ⟨left, leftHolds, sublist, _⟩ :=
    (holds.setCapacity tier.capacity).shrink_leaves { e with profile := .ofTier tier } now
  refine ⟨records.peers, fun key entry found => ?_, ?_⟩
  · exact records.entries key entry (holds.get?_of_subset leftHolds sublist.subset found)
  · exact (evictMany_nextSeq _ now _ _).trans_le records.issued

theorem RecordsTo.perform (records : e.RecordsTo n) (holds : e.store.Holds items)
    (usable : 0 < e.store.capacity) (fits : e.store.size ≤ e.store.capacity) {call : Call}
    {reply : Reply α Answer} (performed : e.perform now call = .ok reply) :
    reply.engine.RecordsTo (n + 1) := by
  have later := records.mono (Nat.le_succ n)
  cases call with
  | message m =>
    obtain ⟨answer, answered, rfl⟩ := perform_message performed
    exact (receive_receives answered).recordsTo records holds usable fits
  | activity peer =>
    obtain rfl := Except.ok.inj performed
    have met := (records.peers.meet peer now).mono le_rfl (Nat.le_succ n)
    have store : (e.trackPeer peer now).store = e.store := meet_store peer
    exact ⟨met, store ▸ later.entries, store ▸ later.issued⟩
  | cleanup =>
    obtain rfl := Except.ok.inj performed
    have kept := (holds.retain (e.isKept now)).1
    refine ⟨fun peer p found => ?_, fun key entry found => ?_, later.issued⟩
    · have found : (e.cleanup now).engine.peers.get? peer = some p := found
      rw [cleanup_peers] at found
      exact later.peers peer p (Option.filter_eq_some_iff.1 found).1
    · exact later.entries key entry (holds.get?_of_subset kept List.filter_sublist.subset found)
  | setTier requested =>
    obtain rfl := Except.ok.inj performed
    show (e.setTier now requested).engine.RecordsTo (n + 1)
    rw [setTier_eq]
    exact later.retiered holds now (.serving requested)
  | close =>
    obtain rfl := Except.ok.inj performed
    exact ⟨later.peers, later.entries, later.issued⟩

/-! ### The whole gate -/

omit [Scalar α] in
theorem TotalsTo.counts (totals : e.TotalsTo n) (records : e.RecordsTo n)
    (holds : e.store.Holds items) : e.CountsTo n where
  toRecordsTo := records
  seen := totals.seen
  duplicates := totals.ordered.trans totals.seen
  types _ _ found :=
    ⟨(Table.le_total found _).trans totals.all, (Table.le_total found _).trans totals.repeated⟩
  size := holds.size_le_nextSeq.trans records.issued

/-- The bookkeeping of a message counts it once everywhere. -/
theorem TotalsTo.arrive {a : Arrival α} (totals : e.TotalsTo n) (records : e.RecordsTo n)
    (holds : e.store.Holds items) (arrived : e.arrive now m = .ok a) :
    a.engine.CountsTo (n + 1) := by
  have counted := arrive_counted arrived
  have store := arrive_store arrived
  have later := records.mono (Nat.le_succ n)
  have met := (records.peers.arrive arrived).mono le_rfl (Nat.le_succ n)
  have after : a.engine.TotalsTo (n + 1) := by
    refine ⟨?_, ?_, ?_, ?_⟩
    · rw [counted.repeated, counted.all]
      exact Nat.le_succ_of_le totals.ordered
    · rw [counted.all]
      exact Nat.succ_le_succ totals.seen
    · rw [counted.seen]
      exact Nat.succ_le_succ totals.all
    · have repeated := totals.repeated
      rw [counted.duplicates]
      split <;> omega
  exact after.counts ⟨met, store ▸ later.entries, store ▸ later.issued⟩ (store.symm ▸ holds)

/-- No call takes more out of the store than there is. -/
theorem perform_takes (holds : e.store.Holds items) (usable : 0 < e.store.capacity)
    (fits : e.store.size ≤ e.store.capacity) {call : Call} {reply : Reply α Answer}
    (performed : e.perform now call = .ok reply) :
    (Step.mk e now call reply).evicted.length + (Step.mk e now call reply).removed ≤
      e.store.size := by
  by_cases brought : ∃ m, call = .message m
  · obtain ⟨m, rfl⟩ := brought
    obtain ⟨answer, answered, rfl⟩ := perform_message performed
    have receives := receive_receives answered
    show (((e.admission? now m).map Admission.evicted).getD []).length + 0 ≤ e.store.size
    cases asks : e.asked? m with
    | none =>
      rw [(receives.unasked asks).2.2]
      exact Nat.zero_le _
    | some key =>
      obtain ⟨a, arrived, admitted, _⟩ := receives.asked asks
      rw [admitted]
      exact (lookUp_admits holds usable fits arrived).evicted_le holds
  · obtain ⟨left, accounts⟩ := perform_accounts holds usable fits performed
    have balance := accounts.balance
    have size := holds.size_eq
    have inserted : (Step.mk e now call reply).inserted = 0 := by
      cases call with
      | message m => exact absurd ⟨m, rfl⟩ brought
      | _ => rfl
    omega

/-- A cleanup reports as many peers as it removes. -/
theorem cleanup_peers_size (e : Engine α) (now : Nat) :
    (e.cleanup now).engine.peers.size + (e.cleanup now).value.peers = e.peers.size := by
  have fewer := List.length_filter_le
    (fun pair => !pair.2.isIdle now e.tuning.reputationDecay) e.peers.entries
  exact Nat.add_sub_cancel' fewer

end Engine

/-- What a call does to the counters of a gate. None of them rises above a number, not on the way
either; the size of the store falls by what goes, which was there before, and rises by what was
inserted, and so it stays the number of entries; and whatever is told of can be recorded. -/
structure Step.Safe (limit : Nat) (step : Step α) : Prop where
  arrival : ∀ m a, step.call = .message m → step.before.arrive step.now m = .ok a →
    a.engine.CountsTo limit
  counts : step.reply.engine.CountsTo limit
  taken : step.evicted.length + step.removed ≤ step.before.store.size
  size : step.reply.engine.store.size + (step.evicted.length + step.removed) =
    step.before.store.size + step.inserted
  counted : step.reply.engine.store.counted = step.reply.engine.store.size
  forgotten : ∀ counts, step.reply.value = .removed counts →
    step.reply.engine.peers.size + counts.peers = step.before.peers.size
  recorded : ∀ event ∈ step.reply.events, ∀ sample ∈ event.samples, ∀ metrics : Metrics α,
    ∃ after, metrics.record sample = .ok after

theorem Step.Safe.mono {few many : Nat} {step : Step α} (safe : step.Safe few) (le : few ≤ many) :
    step.Safe many :=
  { safe with
    arrival := fun m a own arrived => (safe.arrival m a own arrived).mono le
    counts := safe.counts.mono le }

variable {gate : Engine α} {c : Config α} {opened : Nat} {past : List (Step α)}

theorem Run.recordsTo (run : Run c opened past e) : e.RecordsTo past.length := by
  induction run with
  | start started =>
    obtain ⟨ordered, rfl⟩ := Engine.start_assemble started
    have empty := Store.holds_empty (α := α) c.effectiveShards c.effectiveCapacity Key.fingerprint
    refine ⟨fun peer p found => (by cases found), fun key entry found => ?_, le_rfl⟩
    cases (empty.lookup key entry).1 found
  | call before reordered performed ih =>
    obtain ⟨items, held, holds, usable, fits⟩ := before.ready reordered
    exact (ih.reordered held reordered).perform holds usable fits performed

theorem Run.totalsTo (run : Run c opened past e) : e.TotalsTo past.length := by
  have counted := run.counted
  exact ⟨counted.ordered, counted.few.trans List.countP_le_length,
    counted.seen.trans_le List.countP_le_length, counted.duplicates.trans_le List.countP_le_length⟩

/-- No counter is above the number of calls. -/
theorem Run.countsTo (run : Run c opened past e) : e.CountsTo past.length := by
  obtain ⟨items, holds, _⟩ := run.ready (.refl e)
  exact run.totalsTo.counts run.recordsTo holds

theorem Run.safe (run : Run c opened past e) (reordered : e.Reordered gate) {call : Call}
    {reply : Reply α Answer} (performed : gate.perform now call = .ok reply) :
    Step.Safe (past.length + 1) ⟨gate, now, call, reply⟩ := by
  obtain ⟨items, held, holds, usable, fits⟩ := run.ready reordered
  have totals := run.totalsTo
  have records := run.recordsTo.reordered held reordered
  obtain ⟨left, accounts⟩ := Engine.perform_accounts holds usable fits performed
  refine ⟨fun m a _ arrived => ?_, (run.call reordered performed).countsTo,
    Engine.perform_takes holds usable fits performed, ?_, accounts.holds.counted_eq,
    fun counts removed => ?_, fun event _ sample among metrics => ?_⟩
  · obtain ⟨store, _, rfl⟩ := reordered
    exact Engine.TotalsTo.arrive (e := e.withStore store)
      ⟨totals.ordered, totals.seen, totals.all, totals.repeated⟩ records holds arrived
  · have before := holds.size_eq
    have after := accounts.holds.size_eq
    have balance := accounts.balance
    dsimp only at after ⊢
    omega
  · cases call with
    | cleanup =>
      obtain rfl := Except.ok.inj performed
      obtain rfl := Answer.removed.inj removed
      exact gate.cleanup_peers_size now
    | message m =>
      obtain ⟨answer, _, rfl⟩ := Engine.perform_message performed
      cases removed
    | activity | setTier | close =>
      obtain rfl := Except.ok.inj performed
      cases removed
  · unfold Metrics.record
    rw [if_pos (Event.length_labels_of_mem_samples among)]
    exact ⟨_, rfl⟩

/-- The largest number of a signed word. -/
abbrev largestCount : Nat := 2 ^ 63 - 1

/-- No call causes a fault, however the clock jumps: no bounds are the wrong way round, and no time
span leaves the durations. No counter leaves a signed word as long as the number of calls does
not, and the size of the store never falls below zero. -/
theorem Run.faultless [RoundedScalar α] (run : Run c opened past e) (reordered : e.Reordered gate)
    (short : c.maxTtl.nanos < 2 ^ 63 * 1000000000)
    (clocks : ∀ step ∈ past, step.now < UInt64.size) (few : past.length + 1 < 2 ^ 63)
    (reading : now < UInt64.size) (call : Call) :
    (∀ ttl, gate.tuning.window.clamp ttl = .ok (gate.tuning.window.nearest ttl)) ∧
      gate.CountsTo largestCount ∧ ∃ reply, gate.perform now call = .ok reply ∧
        Step.Safe largestCount ⟨gate, now, call, reply⟩ := by
  obtain ⟨items, held, _⟩ := run.ready reordered
  have within : past.length + 1 ≤ largestCount := Nat.le_pred_of_lt few
  have before := (run.countsTo.reordered held reordered).mono ((Nat.le_succ _).trans within)
  have brief := run.brief short.le
  have measurable := (run.measurable clocks).reordered reordered
  obtain ⟨reply, performed⟩ : ∃ reply, gate.perform now call = .ok reply := by
    obtain ⟨store, _, rfl⟩ := reordered
    exact Engine.Brief.perform (e := e.withStore store) ⟨brief.longest, brief.word⟩ measurable
      reading call
  exact ⟨gate.tuning.window.clamp_eq, before, reply, performed,
    (run.safe reordered performed).mono within⟩

/-- Settings of the ENTERPRISE tier with almost the longest TTLs that can be calculated with. -/
def longConfig : Config Float :=
  { Config.ofTier .enterprise with maxTtl := .ofSeconds (2 ^ 63 - 1), learningRate := 1.0 }

/-- The clock jumps from its beginning to its end and back, and no cleanup faults after that. -/
theorem faultless_jumping : ∃ (past : List (Step Float)) (e : Engine Float)
    (reply : Reply Float Answer), Run longConfig 0 past e ∧
      longConfig.maxTtl.nanos < 2 ^ 63 * 1000000000 ∧
      (∀ step ∈ past, step.now < UInt64.size) ∧ past.length + 1 < 2 ^ 63 ∧
      past.map Step.now = [0, UInt64.size - 1, 0] ∧
      e.perform (UInt64.size - 1) .cleanup = .ok reply ∧
      Step.Safe largestCount ⟨e, UInt64.size - 1, .cleanup, reply⟩ := by
  let message : Message := ⟨"a", "block", "p", .empty⟩
  have usable : longConfig.problem? = none := by decide +kernel
  have reaches : (Engine.assemble longConfig (by decide) 0).engine.reaches
      [(0, .message message), (UInt64.size - 1, .message message), (0, .message message)]
        (fun _ => true) = true := by
    decide +kernel
  obtain ⟨past, e, run, requests, _⟩ := Run.of_requests usable reaches
  have readings : past.map Step.now = [0, UInt64.size - 1, 0] := by
    have clocks := congrArg (List.map Prod.fst) requests
    rwa [List.map_map] at clocks
  have clocks : ∀ step ∈ past, step.now < UInt64.size := by
    intro step member
    have reading := List.mem_map_of_mem (f := Step.now) member
    rw [readings] at reading
    exact (by decide : ∀ n ∈ [0, UInt64.size - 1, 0], n < UInt64.size) _ reading
  have length : past.length = 3 := by
    rw [← List.length_map, readings]
    rfl
  have few : past.length + 1 < 2 ^ 63 := by
    rw [length]
    decide
  have short : longConfig.maxTtl.nanos < 2 ^ 63 * 1000000000 := by decide
  obtain ⟨_, _, reply, performed, safe⟩ :=
    run.faultless (.refl e) short clocks few (by decide : UInt64.size - 1 < _) .cleanup
  exact ⟨past, e, reply, run, short, clocks, few, readings, performed, safe⟩

end GossipGate
