import GossipGate.Proofs.Blacklist

namespace GossipGate

variable {α : Type} [Scalar α]

/-- What holds of all values of a table holds of them after one more. -/
theorem Table.forall_insert {κ ν : Type} [DecidableEq κ] {P : ν → Prop} {t : Table κ ν}
    (all : ∀ key value, t.get? key = some value → P value) (key : κ) {value : ν} (own : P value) :
    ∀ other known, (t.insert key value).get? other = some known → P known := by
  intro other known found
  rw [Table.get?_insert] at found
  split at found
  · cases found
    exact own
  · exact all other known found

section Entries

variable {e : Engine α} {now : Nat} {s : Store α} {items : List (Key × Entry α)}
  {seen : Sighting α}

/-- What holds of all entries of a store after a message, by what it makes of one entry. -/
theorem Admits.entries {P Q : Entry α → Prop} {admission : Admission α}
    (admits : Admits e now seen s items admission) (holds : s.Holds items)
    (stored : ∀ key entry, s.get? key = some entry → P entry) (kept : ∀ entry, P entry → Q entry)
    (again : ∀ entry, P entry → Q (e.sightAgain now entry))
    (restarted : ∀ entry, P entry → Q (entry.restart now seen.confidence))
    (first : ∀ seq, Q { seen.entry now with seq }) :
    ∀ key entry, admission.store.get? key = some entry → Q entry := by
  intro key entry found
  cases admits with
  | duplicate =>
    rw [holds.get?_modify seen.key key Engine.sightAgain_seq] at found
    split at found
    · obtain ⟨old, own, rfl⟩ := Option.map_eq_some_iff.1 found
      exact again old (stored seen.key old own)
    · exact kept entry (stored key entry found)
  | refreshed =>
    rw [holds.get?_modify seen.key key (f := fun old => old.restart now seen.confidence)
      fun _ => rfl] at found
    split at found
    · obtain ⟨old, own, rfl⟩ := Option.map_eq_some_iff.1 found
      exact restarted old (stored seen.key old own)
    · exact kept entry (stored key entry found)
  | inserted absent inserts =>
    rw [holds.get?_insert absent inserts] at found
    split at found
    · cases found
      exact first s.nextSeq
    · exact kept entry (stored key entry found)
  | replaced absent _ takes inserts =>
    have gone := takes.left.absent_iff.2 fun other member =>
      holds.absent_iff.1 absent other (List.mem_of_mem_filter member)
    rw [takes.left.get?_insert gone inserts] at found
    split at found
    · cases found
      exact first _
    · have member := List.mem_of_mem_filter ((takes.left.lookup key entry).1 found)
      exact kept entry (stored key entry ((holds.lookup key entry).2 member))

end Entries

namespace Engine

/-- Something holds of all peers of a gate and something of all its entries, and there is room for
these. -/
structure Throughout (onPeer : Peer α → Prop) (onEntry : Entry α → Prop) (e : Engine α) :
    Prop where
  peers : ∀ peer record, e.peers.get? peer = some record → onPeer record
  held : ∃ items, e.store.Holds items ∧ 0 < e.store.capacity ∧ items.length ≤ e.store.capacity
  entries : ∀ key entry, e.store.get? key = some entry → onEntry entry

variable {onPeer : Peer α → Prop} {onEntry : Entry α → Prop} {e : Engine α} {now : Nat}

theorem throughout_start {c : Config α} {opened : Nat} {reply : Reply α Unit}
    (started : Engine.start c opened = .ok reply) :
    reply.engine.Throughout onPeer onEntry := by
  have usable := Engine.start_usable started
  obtain ⟨ordered, rfl⟩ := Engine.start_assemble started
  have empty := Store.holds_empty (α := α) c.effectiveShards c.effectiveCapacity Key.fingerprint
  refine ⟨?_, ⟨[], empty, Config.capacity_pos usable, Nat.zero_le _⟩, ?_⟩
  · intro peer record found
    cases found
  · intro key entry found
    cases (empty.lookup key entry).1 found

omit [Scalar α] in
theorem Throughout.congr {gate : Engine α} (all : e.Throughout onPeer onEntry)
    (peers : gate.peers = e.peers) (store : gate.store = e.store) :
    gate.Throughout onPeer onEntry :=
  ⟨peers ▸ all.peers, store ▸ all.held, store ▸ all.entries⟩

omit [Scalar α] in
theorem Throughout.insert (all : e.Throughout onPeer onEntry) (peer : String) {record : Peer α}
    (own : onPeer record) :
    ({ e with peers := e.peers.insert peer record } : Engine α).Throughout onPeer onEntry :=
  ⟨Table.forall_insert all.peers peer own, all.held, all.entries⟩

theorem Throughout.cleanup (all : e.Throughout onPeer onEntry) (now : Nat) :
    (e.cleanup now).engine.Throughout onPeer onEntry := by
  obtain ⟨items, holds, usable, fits⟩ := all.held
  have kept := (holds.retain (e.isKept now)).1
  have fewer := List.length_filter_le (fun item => e.isKept now item.2) items
  refine ⟨fun peer record found => ?_, ⟨_, kept, usable, fewer.trans fits⟩, fun key entry found => ?_⟩
  · rw [cleanup_peers] at found
    exact all.peers peer record (Option.filter_eq_some_iff.1 found).1
  · exact all.entries key entry (holds.get?_of_subset kept List.filter_sublist.subset found)

omit [Scalar α] in
theorem Throughout.reordered {gate : Engine α} (all : e.Throughout onPeer onEntry)
    (reordered : e.Reordered gate) : gate.Throughout onPeer onEntry := by
  obtain ⟨items, held, room, bounded⟩ := all.held
  obtain ⟨holds, usable, fits⟩ := reordered.ready held room bounded
  obtain ⟨store, _, rfl⟩ := reordered
  refine ⟨all.peers, ⟨items, holds, usable, ?_⟩, fun key entry found => ?_⟩
  · rw [← holds.size_eq]
    exact fits
  · exact all.entries key entry ((held.lookup key entry).2 ((holds.lookup key entry).1 found))

theorem Throughout.retiered (all : e.Throughout onPeer onEntry) (now : Nat) (tier : Tier) :
    ({ e with profile := .ofTier tier, store := (e.shrunk now tier).1 } : Engine α).Throughout
      onPeer onEntry := by
  obtain ⟨items, holds, _⟩ := all.held
  obtain ⟨left, leftHolds, sublist, _, fits, capacity⟩ :=
    (holds.setCapacity tier.capacity).shrink_leaves { e with profile := .ofTier tier } now
  have usable : 0 < tier.capacity := by
    cases tier <;> decide
  refine ⟨all.peers, ⟨left, leftHolds, ?_, ?_⟩, fun key entry found => ?_⟩
  · exact lt_of_lt_of_eq usable capacity.symm
  · exact fits.trans capacity.ge
  · exact all.entries key entry (holds.get?_of_subset leftHolds sublist.subset found)

/-- What a message makes of the entries, by what it makes of one of them. -/
theorem Throughout.tracked {a : Arrival α} {m : Message} {Q : Entry α → Prop}
    (all : a.engine.Throughout onPeer onEntry) (kept : ∀ entry, onEntry entry → Q entry)
    (again : ∀ entry, onEntry entry → Q (a.engine.sightAgain now entry))
    (restarted : ∀ entry, onEntry entry →
      Q (entry.restart now (a.engine.sighting a m).confidence))
    (first : ∀ seq, Q { (a.engine.sighting a m).entry now with seq }) :
    (a.engine.withStore (lookUp now a m).store).Throughout onPeer Q := by
  obtain ⟨items, holds, usable, fits⟩ := all.held
  have room : a.engine.store.size ≤ a.engine.store.capacity := by
    rw [holds.size_eq]
    exact fits
  have admits : Admits a.engine now (a.engine.sighting a m) a.engine.store items (lookUp now a m) :=
    track_admits holds usable room 6
  obtain ⟨left, settles⟩ := admits.settles holds room
  have capacity : (lookUp now a m).store.capacity = a.engine.store.capacity := settles.capacity
  exact ⟨all.peers, ⟨left, settles.holds, capacity ▸ usable, capacity ▸ settles.fits⟩,
    admits.entries holds all.entries kept again restarted first⟩

end Engine

end GossipGate
