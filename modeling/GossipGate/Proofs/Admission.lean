import GossipGate.Engine.Admission
import GossipGate.Proofs.Eviction

namespace GossipGate

variable {α : Type} {items : List (Key × Entry α)} {now : Nat}

/-- The parts of a key are those of the message that an entry was stored for. -/
def Key.Describes (entry : Entry α) : Key → Prop
  | .global hash => entry.hash = hash
  | .peer network messageType sender hash => entry.network = network ∧
      entry.messageType = messageType ∧ entry.peer = sender ∧ entry.hash = hash
  | .typed network messageType hash => entry.network = network ∧
      entry.messageType = messageType ∧ entry.hash = hash

theorem Key.describes_build (profile : Profile) {seen : Sighting α}
    (built : seen.key = .build profile seen.message.hash seen.message.messageType
      seen.message.peer seen.message.network) : seen.key.Describes (seen.entry now) := by
  rw [built]
  unfold Key.build
  split
  · rfl
  · split <;> simp [Key.Describes, Sighting.entry]

/-- Two entries of one message. -/
structure Entry.SameMessage (a b : Entry α) : Prop where
  hash : a.hash = b.hash
  messageType : a.messageType = b.messageType
  peer : a.peer = b.peer
  network : a.network = b.network

theorem Key.Describes.congr {key : Key} {a b : Entry α} (describes : key.Describes a)
    (same : b.SameMessage a) : key.Describes b := by
  cases key <;>
    simpa only [Key.Describes, same.hash, same.messageType, same.peer, same.network] using describes

variable {s : Store α} {seen : Sighting α}

/-- What an admission leaves in the store and which entries it accounts for. -/
structure Admission.Settles (admission : Admission α) (s : Store α) (now : Nat) (seen : Sighting α)
    (items left : List (Key × Entry α)) : Prop where
  holds : admission.store.Holds left
  capacity : admission.store.capacity = s.capacity
  origin : ∀ item ∈ left, item ∈ items ∧ item.1 ≠ seen.key ∨
    item.1 = seen.key ∧ item.2.lastSeen = now ∧ (item.2.SameMessage (seen.entry now) ∨
      ∃ old, (seen.key, old) ∈ items ∧ item.2.SameMessage old)
  balance : left.length + admission.evicted.length =
    items.length + if admission.outcome = .inserted then 1 else 0
  fits : left.length ≤ s.capacity

/-- A change of the entry of the message that came in. -/
theorem Admission.settles_modify (holds : s.Holds items) (fits : s.size ≤ s.capacity)
    {f : Entry α → Entry α} {outcome : Outcome} (old : outcome ≠ .inserted)
    (seq_eq : ∀ entry, (f entry).seq = entry.seq) (lastSeen : ∀ entry, (f entry).lastSeen = now)
    (same : ∀ entry, (f entry).SameMessage entry) :
    ∃ left, Admission.Settles ⟨s.modify seen.key f, outcome, []⟩ s now seen items left := by
  refine ⟨_, holds.modify seen.key seq_eq, rfl, ?_, ?_, ?_⟩
  · intro item member
    obtain ⟨⟨key, entry⟩, stored, rfl⟩ := List.mem_map.1 member
    by_cases own : key = seen.key
    · subst own
      right
      simp only [if_true]
      exact ⟨trivial, lastSeen entry, Or.inr ⟨entry, stored, same entry⟩⟩
    · left
      simp only [own, if_false]
      exact ⟨stored, own⟩
  · simp [old]
  · rw [List.length_map, ← holds.size_eq]
    exact fits

/-- An insertion into what an eviction may have left. -/
theorem Admission.settles_insert {kept : List (Key × Entry α)} {t stored : Store α}
    {evicted : List (Entry α)} (holds : t.Holds kept) (sublist : kept.Sublist items)
    (balance : kept.length + evicted.length = items.length) (capacity : t.capacity = s.capacity)
    (absent : ∀ item ∈ items, item.1 ≠ seen.key)
    (inserted : t.insert? seen.key (seen.entry now) = some stored) :
    ∃ left, Admission.Settles ⟨stored, .inserted, evicted⟩ s now seen items left := by
  have room := Store.room_of_insert? inserted
  have new := holds.absent_iff.2 fun item member => absent item (sublist.subset member)
  obtain ⟨_, again, leftHolds, leftCapacity, _⟩ := holds.insert (seen.entry now) new room
  cases Option.some.inj (inserted.symm.trans again)
  have size := holds.size_eq
  refine ⟨_, leftHolds, leftCapacity.trans capacity, ?_, ?_, ?_⟩
  · intro item member
    rcases List.mem_append.1 member with old | last
    · have stored := sublist.subset old
      exact Or.inl ⟨stored, absent item stored⟩
    · rw [List.mem_singleton.1 last]
      exact Or.inr ⟨rfl, rfl, Or.inl ⟨rfl, rfl, rfl, rfl⟩⟩
  · simp only [List.length_append, List.length_singleton, if_true]
    omega
  · rw [List.length_append, List.length_singleton]
    omega

variable [Scalar α] {e : Engine α}

namespace Engine

variable {gate : Engine α}

/-- What is evicted depends on the gate by the choice of one entry alone. -/
theorem evictMany_congr (evicts : ∀ s, gate.evictOne now s = e.evictOne now s) (count : Nat)
    (s : Store α) : gate.evictMany now count s = e.evictMany now count s := by
  induction count generalizing s with
  | zero => rfl
  | succ count ih => simp only [evictMany, evicts, ih]

theorem track_congr (evicts : ∀ s, gate.evictOne now s = e.evictOne now s)
    (again : gate.sightAgain now = e.sightAgain now) (seen : Sighting α) (attempts : Nat)
    (s : Store α) : gate.track now seen attempts s = e.track now seen attempts s := by
  induction attempts generalizing s with
  | zero => rfl
  | succ attempts ih => simp only [track, evicts, again, ih]

end Engine

namespace Store

/-- Under either policy an eviction from a store with entries takes one of them. -/
theorem Holds.evictOne_takes (holds : s.Holds items) (e : Engine α) (now : Nat)
    (occupied : items ≠ []) : ∃ item, (e.evictOne now s).Takes s items item := by
  unfold Engine.evictOne
  split
  · cases items with
    | nil => exact absurd rfl occupied
    | cons item rest => exact ⟨item, holds.evictOldest_cons⟩
  · cases picked : s.lowest? fun entry => entry.retention e.profile (e.ownerScore? entry) now with
    | none => exact absurd ((holds.lowest?_eq_none_iff _).1 picked) occupied
    | some found => exact ⟨_, holds.evictLowest_mem picked⟩

/-- As many entries go as were asked for; the others stay in their order. -/
theorem Holds.evictMany_leaves (holds : s.Holds items) (e : Engine α) (now : Nat) {count : Nat}
    (enough : count ≤ items.length) : ∃ left, (e.evictMany now count s).1.Holds left ∧
      left.Sublist items ∧ left.length + count = items.length ∧
      (e.evictMany now count s).2.length = count ∧
      (e.evictMany now count s).1.capacity = s.capacity := by
  induction count generalizing s items with
  | zero => exact ⟨items, holds, List.Sublist.refl _, rfl, rfl, rfl⟩
  | succ count ih =>
    have occupied : items ≠ [] := by
      rintro rfl
      simp at enough
    obtain ⟨item, takes⟩ := holds.evictOne_takes e now occupied
    have fewer := holds.length_without takes.member
    obtain ⟨left, leftHolds, sublist, length, evicted, capacity⟩ := ih takes.left (by omega)
    simp only [Engine.evictMany, takes.victim]
    refine ⟨left, leftHolds, sublist.trans List.filter_sublist, ?_, ?_,
      capacity.trans takes.capacity⟩
    · omega
    · rw [List.length_cons, evicted]

/-- A store is brought down to its capacity. -/
theorem Holds.shrink_leaves (holds : s.Holds items) (e : Engine α) (now : Nat) :
    ∃ left, (e.shrink now s).1.Holds left ∧ left.Sublist items ∧
      left.length + (e.shrink now s).2.length = items.length ∧ left.length ≤ s.capacity ∧
      (e.shrink now s).1.capacity = s.capacity := by
  have size := holds.size_eq
  obtain ⟨left, leftHolds, sublist, length, evicted, capacity⟩ :=
    holds.evictMany_leaves e now (show s.size - s.capacity ≤ items.length by omega)
  refine ⟨left, leftHolds, sublist, ?_, ?_, capacity⟩
  · unfold Engine.shrink
    omega
  · omega

end Store

/-- What becomes of a sighting in a store that holds some entries: a live entry is touched, an
expired one starts anew, and a new one is stored, for one that goes where the store is full. -/
inductive Admits (e : Engine α) (now : Nat) (seen : Sighting α) (s : Store α)
    (items : List (Key × Entry α)) : Admission α → Prop
  | duplicate {entry} : s.get? seen.key = some entry → entry.isLive now seen.ttl = true →
      Admits e now seen s items ⟨s.modify seen.key (e.sightAgain now), .duplicate, []⟩
  | refreshed {entry} : s.get? seen.key = some entry → entry.isLive now seen.ttl = false →
      Admits e now seen s items
        ⟨s.modify seen.key fun old => old.restart now seen.confidence, .refreshed, []⟩
  | inserted {stored} : s.get? seen.key = none →
      s.insert? seen.key (seen.entry now) = some stored →
      Admits e now seen s items ⟨stored, .inserted, []⟩
  | replaced {item stored} : s.get? seen.key = none → s.size = s.capacity →
      (e.evictOne now s).Takes s items item →
      (e.evictOne now s).left.insert? seen.key (seen.entry now) = some stored →
      Admits e now seen s items ⟨stored, .inserted, [item.2]⟩

/-- Two insertions are enough: the second one finds the room that an eviction made. -/
theorem Engine.track_admits (holds : s.Holds items) (usable : 0 < s.capacity)
    (fits : s.size ≤ s.capacity) (attempts : Nat) :
    Admits e now seen s items (e.track now seen (attempts + 2) s) := by
  unfold track
  cases found : s.get? seen.key with
  | some entry =>
    dsimp only
    cases live : entry.isLive now seen.ttl with
    | true => exact .duplicate found live
    | false => exact .refreshed found live
  | none =>
    by_cases room : s.size < s.capacity
    · obtain ⟨stored, inserted, _⟩ := holds.insert (seen.entry now) found room
      rw [inserted]
      exact .inserted found inserted
    · have refused : s.insert? seen.key (seen.entry now) = none := by
        simp only [Store.insert?, room, if_false]
      have size := holds.size_eq
      have occupied : items ≠ [] := by
        rintro rfl
        simp at size
        omega
      obtain ⟨item, takes⟩ := holds.evictOne_takes e now occupied
      have fewer := holds.length_without takes.member
      -- The second attempt looks the key up again, in what the eviction left.
      have absent : (e.evictOne now s).left.get? seen.key = none :=
        takes.left.absent_iff.2 fun other member =>
          holds.absent_iff.1 found other (List.mem_of_mem_filter member)
      have space : (e.evictOne now s).left.size < (e.evictOne now s).left.capacity := by
        rw [takes.left.size_eq, takes.capacity]
        omega
      obtain ⟨stored, inserted, _⟩ := takes.left.insert (seen.entry now) absent space
      simp only [refused, track, absent, inserted, takes.victim]
      exact .replaced found (by omega) takes inserted

theorem Engine.sightAgain_sameMessage (entry : Entry α) :
    (e.sightAgain now entry).SameMessage entry := by
  unfold sightAgain
  dsimp only
  split <;> exact ⟨rfl, rfl, rfl, rfl⟩

theorem Engine.sightAgain_lastSeen (entry : Entry α) :
    (e.sightAgain now entry).lastSeen = now := by
  unfold sightAgain
  dsimp only
  split <;> rfl

theorem Engine.sightAgain_seq (entry : Entry α) : (e.sightAgain now entry).seq = entry.seq := by
  unfold sightAgain
  dsimp only
  split <;> rfl

theorem Admits.settles {admission : Admission α} (admits : Admits e now seen s items admission)
    (holds : s.Holds items) (fits : s.size ≤ s.capacity) :
    ∃ left, admission.Settles s now seen items left := by
  cases admits with
  | duplicate =>
    exact Admission.settles_modify holds fits (by decide) Engine.sightAgain_seq
      Engine.sightAgain_lastSeen Engine.sightAgain_sameMessage
  | refreshed =>
    exact Admission.settles_modify holds fits (by decide) (fun _ => rfl) (fun _ => rfl)
      fun _ => ⟨rfl, rfl, rfl, rfl⟩
  | inserted absent stored =>
    exact Admission.settles_insert holds (List.Sublist.refl _) rfl rfl (holds.absent_iff.1 absent)
      stored
  | @replaced item _ absent _ takes stored =>
    have fewer := holds.length_without takes.member
    have occupied := List.length_pos_of_mem takes.member
    refine Admission.settles_insert takes.left List.filter_sublist ?_ takes.capacity
      (holds.absent_iff.1 absent) stored
    rw [List.length_singleton]
    omega

theorem Admits.duplicate_iff {admission : Admission α}
    (admits : Admits e now seen s items admission) :
    admission.outcome = .duplicate ↔
      ∃ entry, s.get? seen.key = some entry ∧ entry.isLive now seen.ttl = true := by
  cases admits with
  | @duplicate entry found live => exact ⟨fun _ => ⟨entry, found, live⟩, fun _ => rfl⟩
  | @refreshed entry found expired =>
    refine ⟨fun same => (by cases same), ?_⟩
    rintro ⟨other, stored, live⟩
    rw [Option.some.inj (found.symm.trans stored), live] at expired
    cases expired
  | inserted absent _ | replaced absent _ _ _ =>
    refine ⟨fun same => (by cases same), ?_⟩
    rintro ⟨entry, found, _⟩
    rw [absent] at found
    cases found

end GossipGate
