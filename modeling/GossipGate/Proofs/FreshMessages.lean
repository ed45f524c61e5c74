import GossipGate.Proofs.Faults
import GossipGate.Proofs.Tracking

namespace GossipGate

variable {α : Type} [Scalar α] {e : Engine α} {now : Nat} {m : Message} {s : Store α}
  {items : List (Key × Entry α)} {seen : Sighting α}

/-! ### One message with a new key -/

/-- A new key that finds room is stored behind all others, under the next number. -/
theorem Admits.stores {admission : Admission α} (admits : Admits e now seen s items admission)
    (holds : s.Holds items) (absent : s.get? seen.key = none) (room : s.size < s.capacity) :
    admission.store.Holds (items ++ [(seen.key, { seen.entry now with seq := s.nextSeq })]) ∧
      admission.store.capacity = s.capacity ∧ admission.store.nextSeq = s.nextSeq + 1 := by
  cases admits with
  | duplicate found | refreshed found =>
    rw [absent] at found
    cases found
  | inserted _ inserts =>
    obtain ⟨stored, again, left⟩ := holds.insert (seen.entry now) absent room
    cases Option.some.inj (inserts.symm.trans again)
    exact left
  | replaced _ full _ _ => exact absurd full room.ne

namespace Engine

theorem arrive_anonymous {a : Arrival α} (arrived : e.arrive now m = .ok a)
    (anonymous : m.peer.isEmpty = true) : a.scorer = none := by
  unfold arrive at arrived
  obtain ⟨measured, _, reached⟩ := bind_eq_ok arrived
  cases reached
  simp [meet, anonymous]

/-- The entry of a message without a sender, with its number in the store. -/
def firstEntry (e : Engine α) (now : Nat) (m : Message) (seq : Nat) : Entry α :=
  { hash := m.hash, messageType := m.messageType, peer := m.peer, network := m.network
    source := m.metadata.source, firstSeen := now, lastSeen := now, seenCount := 1
    confidence :=
      if e.profile.confidenceScoring then
        Confidence.initial m.hash m.messageType none m.metadata.bytes
      else 1.0
    priority := entryPriority e.profile m.messageType none m.metadata.priority
    size := m.metadata.bytes, properties := m.metadata.properties, seq }

theorem sighting_anonymous {a : Arrival α} (arrived : e.arrive now m = .ok a)
    (anonymous : m.peer.isEmpty = true) (seq : Nat) :
    { (a.engine.sighting a m).entry now with seq } = e.firstEntry now m seq := by
  unfold firstEntry sighting Sighting.entry
  rw [arrive_anonymous arrived anonymous, (arrive_follows arrived).profile]
  rfl

/-- A message with a new key that finds room is stored behind all others. -/
theorem perform_stores (holds : e.store.Holds items) (room : e.store.size < e.store.capacity)
    {reply : Reply α Answer} (performed : e.perform now (.message m) = .ok reply)
    (named : m.hash.isEmpty = false) (anonymous : m.peer.isEmpty = true)
    (absent : e.store.get? (e.keyOf m) = none) :
    reply.engine.profile = e.profile ∧
      reply.engine.store.Holds (items ++ [(e.keyOf m, e.firstEntry now m e.store.nextSeq)]) ∧
      reply.engine.store.capacity = e.store.capacity ∧
      reply.engine.store.nextSeq = e.store.nextSeq + 1 := by
  obtain ⟨answer, answered, rfl⟩ := perform_message performed
  have receives := receive_receives answered
  have asks : e.asked? m = some (e.keyOf m) := by simp [asked?, blocks, named, anonymous]
  obtain ⟨a, arrived, _, store, _⟩ := receives.asked asks
  have key : (a.engine.sighting a m).key = e.keyOf m := (arrive_follows arrived).key
  refine ⟨receives.profile, ?_⟩
  show answer.engine.store.Holds _ ∧ answer.engine.store.capacity = _ ∧
    answer.engine.store.nextSeq = _
  rw [store, ← key, ← sighting_anonymous arrived anonymous]
  exact (lookUp_admits holds (Nat.zero_lt_of_lt room) room.le arrived).stores holds
    (key ▸ absent) room

end Engine

/-! ### A stream of them -/

@[simp] theorem Key.hash_build (profile : Profile) (hash messageType peer network : String) :
    (build profile hash messageType peer network).hash = hash := by
  unfold build
  split
  · rfl
  · split <;> rfl

/-- The first messages of a stream that a gate can tell from each other and from all that it stores:
they come with a hash, without a sender and with keys of their own. -/
structure Engine.TellsApart (e : Engine α) (stream : Nat → Nat × Message) (count : Nat) :
    Prop where
  readings : ∀ i < count, (stream i).1 < UInt64.size
  named : ∀ i < count, (stream i).2.hash.isEmpty = false
  anonymous : ∀ i < count, (stream i).2.peer.isEmpty = true
  distinct : ∀ i < count, ∀ j < count, e.keyOf (stream i).2 = e.keyOf (stream j).2 → i = j
  absent : ∀ i < count, e.store.get? (e.keyOf (stream i).2) = none

/-- What a gate stores of the first messages of a stream, in order. -/
def Engine.firstItems (e : Engine α) (stream : Nat → Nat × Message) (count : Nat) :
    List (Key × Entry α) :=
  (List.range count).map fun i =>
    (e.keyOf (stream i).2, e.firstEntry (stream i).1 (stream i).2 (e.store.nextSeq + i))

namespace Engine

variable {stream : Nat → Nat × Message} {count fewer : Nat}

omit [Scalar α] in
theorem TellsApart.mono (apart : e.TellsApart stream count) (below : fewer ≤ count) :
    e.TellsApart stream fewer :=
  ⟨fun i inside => apart.readings i (inside.trans_le below),
    fun i inside => apart.named i (inside.trans_le below),
    fun i inside => apart.anonymous i (inside.trans_le below),
    fun i inside j also => apart.distinct i (inside.trans_le below) j (also.trans_le below),
    fun i inside => apart.absent i (inside.trans_le below)⟩

theorem length_firstItems : (e.firstItems stream count).length = count := by
  rw [firstItems, List.length_map, List.length_range]

theorem firstItems_succ : e.firstItems stream (count + 1) = e.firstItems stream count ++
    [(e.keyOf (stream count).2,
      e.firstEntry (stream count).1 (stream count).2 (e.store.nextSeq + count))] := by
  rw [firstItems, List.range_succ, List.map_append]
  rfl

/-- After some messages of the stream the next one still has a new key. -/
theorem TellsApart.next (apart : e.TellsApart stream (count + 1)) (holds : e.store.Holds items) :
    ∀ item ∈ items ++ e.firstItems stream count, item.1 ≠ e.keyOf (stream count).2 := by
  intro item member
  rcases List.mem_append.1 member with old | earlier
  · exact holds.absent_iff.1 (apart.absent count count.lt_succ_self) item old
  · obtain ⟨i, among, rfl⟩ := List.mem_map.1 earlier
    have below := List.mem_range.1 among
    intro same
    exact below.ne (apart.distinct i (below.trans count.lt_succ_self) count count.lt_succ_self same)

end Engine

variable [RoundedScalar α] {c : Config α} {opened : Nat} {past : List (Step α)}

/-- Messages that a gate can tell apart fill its store: as long as there is room, each of them is
answered and stored behind all others, and none is evicted. -/
theorem Run.fills (run : Run c opened past e) (clocks : ∀ step ∈ past, step.now < UInt64.size)
    (short : c.maxTtl.nanos ≤ longestTtl) (holds : e.store.Holds items)
    {stream : Nat → Nat × Message} {count : Nat} (apart : e.TellsApart stream count)
    (room : items.length + count ≤ e.store.capacity) :
    ∃ later last, Run c opened (later ++ past) last ∧ later.map Step.request =
        ((List.range count).map fun i => ((stream i).1, Call.message (stream i).2)).reverse ∧
      last.profile = e.profile ∧ last.store.Holds (items ++ e.firstItems stream count) ∧
      last.store.capacity = e.store.capacity ∧ last.store.nextSeq = e.store.nextSeq + count := by
  induction count with
  | zero =>
    refine ⟨[], e, run, rfl, rfl, ?_, rfl, rfl⟩
    simpa [Engine.firstItems] using holds
  | succ count ih =>
    obtain ⟨later, gate, ran, requests, profile, stored, capacity, nextSeq⟩ :=
      ih (apart.mono count.le_succ) (by omega)
    have own := count.lt_succ_self
    have inside : ∀ step ∈ later ++ past, step.now < UInt64.size := by
      intro step member
      rcases List.mem_append.1 member with new | old
      · refine Step.forall_now (P := fun now => now < UInt64.size) requests ?_ step new
        intro call among
        obtain ⟨i, below, rfl⟩ := List.mem_map.1 among
        exact apart.readings i ((List.mem_range.1 below).trans own)
      · exact clocks step old
    have key : gate.keyOf (stream count).2 = e.keyOf (stream count).2 := by
      rw [Engine.keyOf, profile, Engine.keyOf]
    have entry : gate.firstEntry (stream count).1 (stream count).2 gate.store.nextSeq =
        e.firstEntry (stream count).1 (stream count).2 (e.store.nextSeq + count) := by
      rw [Engine.firstEntry, profile, nextSeq, Engine.firstEntry]
    have new : gate.store.get? (gate.keyOf (stream count).2) = none := by
      rw [key]
      exact stored.absent_iff.2 (apart.next holds)
    have size := stored.size_eq
    rw [List.length_append, Engine.length_firstItems] at size
    obtain ⟨reply, performed⟩ := (ran.brief short).perform (ran.measurable inside)
      (apart.readings count own) (.message (stream count).2)
    obtain ⟨sameProfile, left, sameCapacity, next⟩ := Engine.perform_stores stored (by omega)
      performed (apart.named count own) (apart.anonymous count own) new
    rw [key, entry, List.append_assoc, ← Engine.firstItems_succ] at left
    refine ⟨⟨gate, _, _, reply⟩ :: later, reply.engine, ran.call (.refl gate) performed, ?_,
      sameProfile.trans profile, left, sameCapacity.trans capacity, by omega⟩
    rw [List.map_cons, requests, List.range_succ, List.map_append, List.reverse_append]
    rfl

/-- A new gate stores all messages of a stream that it can tell apart, up to its capacity. -/
theorem Run.of_stream (usable : c.problem? = none) (short : c.maxTtl.nanos ≤ longestTtl)
    {ordered : c.minTtl ≤ c.maxTtl} {stream : Nat → Nat × Message} {count : Nat}
    (apart : (Engine.assemble c ordered opened).engine.TellsApart stream count)
    (room : count ≤ c.effectiveCapacity) : ∃ past e, Run c opened past e ∧
      past.map Step.request =
        ((List.range count).map fun i => ((stream i).1, Call.message (stream i).2)).reverse ∧
      e.profile = .ofTier c.tier ∧ e.store.Holds ((List.range count).map fun i =>
        (e.keyOf (stream i).2, e.firstEntry (stream i).1 (stream i).2 i)) := by
  have run := Run.start (Engine.start_eq usable opened)
  have holds := Store.holds_empty (α := α) c.effectiveShards c.effectiveCapacity Key.fingerprint
  obtain ⟨past, e, ran, requests, profile, stored, _⟩ :=
    run.fills (fun _ member => absurd member List.not_mem_nil) short holds apart
      (by rw [List.length_nil, Nat.zero_add]; exact room)
  rw [List.append_nil] at ran
  refine ⟨past, e, ran, requests, profile, ?_⟩
  have same : ∀ i, ((Engine.assemble c ordered opened).engine.keyOf (stream i).2,
      (Engine.assemble c ordered opened).engine.firstEntry (stream i).1 (stream i).2 (0 + i)) =
        (e.keyOf (stream i).2, e.firstEntry (stream i).1 (stream i).2 i) := fun i => by
    rw [Engine.keyOf, Engine.keyOf, Engine.firstEntry, Engine.firstEntry, profile, Nat.zero_add]
  rw [List.nil_append] at stored
  exact (funext same) ▸ stored

/-! ### Numbered messages -/

/-- A message with a hash of 32 zeros and a number. The one with number zero asks for the highest
priority. -/
def numbered (i : Nat) : Message :=
  { hash := "00000000000000000000000000000000" ++ i.repr, messageType := "block", peer := ""
    metadata := { Metadata.empty with priority := if i = 0 then some 15 else none } }

theorem hash_numbered_injective {i j : Nat} (same : (numbered i).hash = (numbered j).hash) :
    i = j :=
  Nat.repr_injective ((String.append_right_inj _).1 same)

theorem hash_numbered_long (i : Nat) : 32 ≤ (numbered i).hash.utf8ByteSize := by
  have zeros : "00000000000000000000000000000000".utf8ByteSize = 32 := by decide +kernel
  show 32 ≤ ("00000000000000000000000000000000" ++ i.repr).utf8ByteSize
  rw [String.utf8ByteSize_append, zeros]
  exact Nat.le_add_right 32 _

omit [Scalar α] [RoundedScalar α] in
/-- A new gate can tell numbered messages apart. -/
theorem tellsApart_numbered {c : Config α} (ordered : c.minTtl ≤ c.maxTtl) (opened count : Nat) :
    (Engine.assemble c ordered opened).engine.TellsApart (fun i => (0, numbered i)) count := by
  refine ⟨fun _ _ => (by decide : 0 < UInt64.size), fun i _ => ?_, fun _ _ => rfl,
    fun i _ j _ same => ?_, fun i _ => ?_⟩
  · have long := hash_numbered_long i
    rw [← Bool.not_eq_true, String.isEmpty_iff]
    intro empty
    rw [empty] at long
    exact absurd long (by decide)
  · refine hash_numbered_injective ?_
    have hashes := congrArg Key.hash same
    rwa [Engine.keyOf, Key.hash_build, Engine.keyOf, Key.hash_build] at hashes
  · exact (Store.holds_empty _ _ _).absent_iff.2 fun _ member => absurd member List.not_mem_nil

/-- A new gate stores numbered messages up to its capacity. -/
theorem Run.of_numbered {c : Config α} (usable : c.problem? = none)
    (short : c.maxTtl.nanos ≤ longestTtl) {count : Nat} (room : count ≤ c.effectiveCapacity) :
    ∃ past e, Run c 0 past e ∧ (∀ step ∈ past, step.now < UInt64.size) ∧ past.length = count ∧
      e.profile = .ofTier c.tier ∧ e.store.Holds ((List.range count).map fun i =>
        (e.keyOf (numbered i), e.firstEntry 0 (numbered i) i)) := by
  obtain ⟨past, e, run, requests, profile, holds⟩ := Run.of_stream usable short
    (tellsApart_numbered (Config.minTtl_le_maxTtl usable) 0 count) room
  refine ⟨past, e, run, ?_, ?_, profile, holds⟩
  · refine Step.forall_now (P := fun now => now < UInt64.size) requests fun call among => ?_
    obtain ⟨i, _, rfl⟩ := List.mem_map.1 among
    exact (by decide : 0 < UInt64.size)
  · rw [← List.length_map (f := Step.request), requests, List.length_reverse, List.length_map,
      List.length_range]

end GossipGate
