import GossipGate.Proofs.Shard
import GossipGate.Store
import Mathlib.Data.List.Nodup

namespace GossipGate

namespace Store

variable {α : Type} {s t : Store α} {items : List (Key × Entry α)}

/-- Every key lies in its own shard only, and the records of each shard are those of its entries. -/
structure Consistent (s : Store α) : Prop where
  occupied : 0 < s.shards.length
  placed : ∀ index shard, s.shards[index]? = some shard →
    ∀ key entry, shard.get? key = some entry → s.shardIndex key = index
  indexed : ∀ shard ∈ s.shards, shard.Indexed

/-- The store holds the pairs of a list, the oldest insertion first. -/
structure Holds (s : Store α) (items : List (Key × Entry α)) : Prop extends s.Consistent where
  lookup : ∀ key entry, s.get? key = some entry ↔ (key, entry) ∈ items
  sorted : items.Pairwise fun a b => a.2.seq < b.2.seq
  issued : ∀ item ∈ items, item.2.seq < s.nextSeq
  size_eq : s.size = items.length

theorem Consistent.shard_eq (consistent : s.Consistent) (key : Key) :
    s.shards[s.shardIndex key]? = some (s.shard key) := by
  have bound : s.shardIndex key < s.shards.length := Nat.mod_lt _ consistent.occupied
  simp [shard, List.getElem?_eq_getElem bound]

theorem Consistent.get?_of_shard (consistent : s.Consistent) {index : Nat} {shard : Shard α}
    (atIndex : s.shards[index]? = some shard) {key : Key} {entry : Entry α}
    (found : shard.get? key = some entry) : s.get? key = some entry := by
  have own := consistent.placed index shard atIndex key entry found
  have same := consistent.shard_eq key
  rw [own, atIndex] at same
  unfold get?
  rw [← Option.some.inj same, found]

theorem Consistent.mem_toList (consistent : s.Consistent) {key : Key} {entry : Entry α} :
    (key, entry) ∈ s.toList ↔ s.get? key = some entry := by
  unfold toList
  rw [List.mem_flatMap]
  constructor
  · rintro ⟨shard, member, pair⟩
    obtain ⟨index, atIndex⟩ := List.getElem?_of_mem member
    exact consistent.get?_of_shard atIndex (Table.mem_entries_iff.1 pair)
  · intro found
    exact ⟨s.shard key, List.mem_of_getElem? (consistent.shard_eq key),
      Table.mem_entries_iff.2 found⟩

/-- No key is stored twice, in one shard or in two. -/
theorem Consistent.keys_nodup (consistent : s.Consistent) : (s.toList.map Prod.fst).Nodup := by
  unfold toList
  rw [List.map_flatMap, List.nodup_flatMap]
  refine ⟨fun shard _ => shard.entries.nodup, ?_⟩
  rw [List.pairwise_iff_getElem]
  intro i j iBound jBound before key inFirst inSecond
  obtain ⟨⟨_, first⟩, firstPair, rfl⟩ := List.mem_map.1 inFirst
  obtain ⟨⟨_, second⟩, secondPair, same⟩ := List.mem_map.1 inSecond
  have atFirst := consistent.placed i _ (List.getElem?_eq_getElem iBound) _ first
    (Table.mem_entries_iff.1 firstPair)
  have atSecond := consistent.placed j _ (List.getElem?_eq_getElem jBound) _ second
    (Table.mem_entries_iff.1 secondPair)
  simp only at same
  rw [same] at atSecond
  omega

theorem Holds.perm (holds : s.Holds items) : s.toList.Perm items := by
  have distinct : items.Nodup := by
    refine holds.sorted.imp fun {a b} lower same => ?_
    rw [same] at lower
    omega
  refine (List.perm_ext_iff_of_nodup (List.Nodup.of_map _ holds.keys_nodup) distinct).2 ?_
  rintro ⟨key, entry⟩
  rw [holds.mem_toList, holds.lookup]

/-- The length that is counted anew is the one that is kept. -/
theorem Holds.counted_eq (holds : s.Holds items) : s.counted = s.size := by
  rw [holds.size_eq]
  exact holds.perm.length_eq

theorem Holds.absent_iff (holds : s.Holds items) {key : Key} :
    s.get? key = none ↔ ∀ item ∈ items, item.1 ≠ key := by
  constructor
  · rintro absent ⟨_, entry⟩ member rfl
    rw [(holds.lookup _ entry).2 member] at absent
    cases absent
  · intro others
    cases found : s.get? key with
    | none => rfl
    | some entry => exact absurd rfl (others (key, entry) ((holds.lookup key entry).1 found))

/-- A store that holds no more than another one has the same entries under its keys. -/
theorem Holds.get?_of_subset {kept : List (Key × Entry α)} (holds : s.Holds items)
    (left : t.Holds kept) (subset : kept ⊆ items) {key : Key} {entry : Entry α}
    (found : t.get? key = some entry) : s.get? key = some entry :=
  (holds.lookup key entry).2 (subset ((left.lookup key entry).1 found))

/-! ### Orders of visiting -/

/-- The same store with the tables of its shards in another order. Hash tables promise none. -/
structure Reordered (s t : Store α) : Prop where
  place : t.place = s.place
  size : t.size = s.size
  capacity : t.capacity = s.capacity
  nextSeq : t.nextSeq = s.nextSeq
  length : t.shards.length = s.shards.length
  records : ∀ (index : Nat) (before after : Shard α), s.shards[index]? = some before →
    t.shards[index]? = some after → after.order = before.order
  tables : ∀ (index : Nat) (before after : Shard α), s.shards[index]? = some before →
    t.shards[index]? = some after → before.entries.entries.Perm after.entries.entries

theorem Reordered.refl (s : Store α) : s.Reordered s where
  place := rfl
  size := rfl
  capacity := rfl
  nextSeq := rfl
  length := rfl
  records := by
    intro index before after left right
    rw [Option.some.inj (left.symm.trans right)]
  tables := by
    intro index before after left right
    rw [Option.some.inj (left.symm.trans right)]

/-- Every shard finds the same entries in another order. -/
theorem Reordered.shard (reordered : s.Reordered t) {index : Nat} {after : Shard α}
    (atIndex : t.shards[index]? = some after) : ∃ before, s.shards[index]? = some before ∧
      after.order = before.order ∧ ∀ key, after.get? key = before.get? key := by
  obtain ⟨bound, _⟩ := List.getElem?_eq_some_iff.1 atIndex
  rw [reordered.length] at bound
  have old := List.getElem?_eq_getElem bound
  exact ⟨_, old, reordered.records index _ after old atIndex, fun key =>
    (Table.get?_congr_perm (reordered.tables index _ after old atIndex) key).symm⟩

theorem Holds.reordered (holds : s.Holds items) (reordered : s.Reordered t) : t.Holds items := by
  have index_eq : ∀ key, t.shardIndex key = s.shardIndex key := by
    intro key
    simp only [shardIndex, reordered.place, reordered.length]
  have consistent : t.Consistent := by
    refine ⟨reordered.length ▸ holds.occupied, ?_, ?_⟩
    · intro index after atIndex key entry found
      obtain ⟨before, atBefore, _, lookup⟩ := reordered.shard atIndex
      rw [lookup] at found
      rw [index_eq]
      exact holds.placed index before atBefore key entry found
    · intro after member
      obtain ⟨index, atIndex⟩ := List.getElem?_of_mem member
      obtain ⟨before, atBefore, order, lookup⟩ := reordered.shard atIndex
      have indexed := holds.indexed before (List.mem_of_getElem? atBefore)
      refine ⟨order ▸ indexed.sorted, ?_⟩
      intro seq key
      rw [order, lookup, indexed.record_iff]
  refine { consistent with lookup := ?_, sorted := holds.sorted, issued := ?_, size_eq := ?_ }
  · intro key entry
    rw [← holds.lookup]
    obtain ⟨before, atBefore, _, lookup⟩ := reordered.shard (consistent.shard_eq key)
    rw [index_eq, holds.shard_eq] at atBefore
    simp only [get?, lookup, Option.some.inj atBefore]
  · rw [reordered.nextSeq]
    exact holds.issued
  · rw [reordered.size]
    exact holds.size_eq

/-! ### One shard changed -/

@[simp] theorem shardIndex_updateShard (index : Nat) (f : Shard α → Shard α) (key : Key) :
    (s.updateShard index f).shardIndex key = s.shardIndex key := by
  simp [shardIndex, updateShard]

theorem Consistent.get?_updateShard (consistent : s.Consistent) (index : Nat)
    (f : Shard α → Shard α) (key : Key) : (s.updateShard index f).get? key =
      if s.shardIndex key = index then (f (s.shard key)).get? key else s.get? key := by
  have atKey := consistent.shard_eq key
  unfold get? shard
  rw [shardIndex_updateShard]
  simp only [updateShard, List.getElem?_modify, atKey]
  by_cases same : s.shardIndex key = index
  · simp [same]
  · simp [same, Ne.symm same]

theorem Consistent.updateShard (consistent : s.Consistent) {index : Nat} {f : Shard α → Shard α}
    (indexed : ∀ shard, s.shards[index]? = some shard → (f shard).Indexed)
    (keys : ∀ shard, s.shards[index]? = some shard → ∀ key entry,
      (f shard).get? key = some entry → s.shardIndex key = index) :
    (s.updateShard index f).Consistent where
  occupied := by simpa [Store.updateShard] using consistent.occupied
  placed := by
    intro other shard atOther key entry found
    rw [shardIndex_updateShard]
    simp only [Store.updateShard, List.getElem?_modify] at atOther
    obtain ⟨old, atOld, rfl⟩ := Option.map_eq_some_iff.1 atOther
    by_cases same : index = other
    · subst same
      simp only [if_true] at found
      exact keys old atOld key entry found
    · simp only [same, if_false] at found
      exact consistent.placed other old atOld key entry found
  indexed := by
    intro shard member
    obtain ⟨other, atOther⟩ := List.getElem?_of_mem member
    simp only [Store.updateShard, List.getElem?_modify] at atOther
    obtain ⟨old, atOld, rfl⟩ := Option.map_eq_some_iff.1 atOther
    by_cases same : index = other
    · subst same
      simpa using indexed old atOld
    · simpa [same] using consistent.indexed old (List.mem_of_getElem? atOld)

/-- A change in the shard of a key that concerns this key only. -/
theorem Consistent.updateOwn (consistent : s.Consistent) (key : Key) (f : Shard α → Shard α)
    (others : ∀ shard other, other ≠ key → (f shard).get? other = shard.get? other)
    (indexed : ∀ shard, s.shards[s.shardIndex key]? = some shard → (f shard).Indexed) :
    (s.updateShard (s.shardIndex key) f).Consistent ∧
      ∀ other, (s.updateShard (s.shardIndex key) f).get? other =
        if other = key then (f (s.shard key)).get? key else s.get? other := by
  constructor
  · refine consistent.updateShard indexed ?_
    intro shard atIndex other entry found
    by_cases same : other = key
    · rw [same]
    · rw [others shard other same] at found
      exact consistent.placed _ _ atIndex other entry found
  · intro other
    rw [consistent.get?_updateShard]
    by_cases same : other = key
    · simp only [same, if_true]
    · rw [if_neg same, others _ _ same]
      split <;> rfl

/-! ### Operations -/

theorem holds_empty (shards capacity : Nat) (place : Key → Nat) :
    (empty shards capacity place : Store α).Holds [] := by
  have none_found : ∀ key, (empty shards capacity place : Store α).get? key = none := by
    intro key
    have bound : place key % max shards 1 < max shards 1 := Nat.mod_lt _ (by omega)
    simp [get?, shard, shardIndex, empty, bound, Shard.get?, Shard.empty, Table.get?_empty]
  refine { occupied := ?_, placed := ?_, indexed := ?_, lookup := ?_, sorted := .nil, issued := ?_
           size_eq := rfl }
  · simp only [empty, List.length_replicate]
    omega
  · intro index shard atIndex key entry found
    rw [List.eq_of_mem_replicate (List.mem_of_getElem? atIndex)] at found
    cases found
  · intro shard member
    rw [List.eq_of_mem_replicate member]
    exact Shard.indexed_empty
  · intro key entry
    simp [none_found]
  · intro item member
    cases member

theorem Holds.setCapacity (holds : s.Holds items) (capacity : Nat) :
    (s.setCapacity capacity).Holds items :=
  { occupied := holds.occupied, placed := holds.placed, indexed := holds.indexed
    lookup := holds.lookup, sorted := holds.sorted, issued := holds.issued
    size_eq := holds.size_eq }

/-- A new key takes the next number and stands after all others. -/
theorem Holds.insert (holds : s.Holds items) (entry : Entry α) {key : Key}
    (absent : s.get? key = none) (room : s.size < s.capacity) :
    ∃ stored, s.insert? key entry = some stored ∧
      stored.Holds (items ++ [(key, { entry with seq := s.nextSeq })]) ∧
      stored.capacity = s.capacity ∧ stored.nextSeq = s.nextSeq + 1 := by
  let added : Entry α := { entry with seq := s.nextSeq }
  let updated := s.updateShard (s.shardIndex key) fun shard => shard.insert key added
  have indexed : ∀ shard, s.shards[s.shardIndex key]? = some shard →
      (shard.insert key added).Indexed := by
    intro shard atIndex
    have own := holds.indexed shard (List.mem_of_getElem? atIndex)
    refine own.insert ?_ ?_
    · cases found : shard.get? key with
      | none => rfl
      | some old =>
        rw [holds.get?_of_shard atIndex found] at absent
        cases absent
    · rintro ⟨seq, other⟩ member
      obtain ⟨old, found, rfl⟩ := (own.record_iff seq other).1 member
      exact holds.issued _ ((holds.lookup other old).1 (holds.get?_of_shard atIndex found))
  obtain ⟨consistent, changed⟩ := holds.toConsistent.updateOwn key
    (fun shard => shard.insert key added)
    (fun shard other different => by rw [Shard.get?_insert, if_neg different]) indexed
  have lookup : ∀ other, updated.get? other = if other = key then some added else s.get? other := by
    intro other
    rw [changed, Shard.get?_insert, if_pos rfl]
  refine ⟨{ updated with size := s.size + 1, nextSeq := s.nextSeq + 1 }, ?_, ?_, rfl, rfl⟩
  · simp only [insert?, room, if_true]
    rfl
  · refine { consistent with lookup := ?_, sorted := ?_, issued := ?_, size_eq := ?_ }
    · intro other old
      show updated.get? other = some old ↔ _
      rw [lookup, List.mem_append, List.mem_singleton, ← holds.lookup]
      by_cases same : other = key
      · simp [same, absent, eq_comm, added]
      · simp [same]
    · refine List.pairwise_append.2 ⟨holds.sorted, List.pairwise_singleton _ _, ?_⟩
      intro item member last isLast
      rw [List.mem_singleton.1 isLast]
      exact holds.issued item member
    · intro item member
      rcases List.mem_append.1 member with old | new
      · have lower := holds.issued item old
        show _ < s.nextSeq + 1
        omega
      · rw [List.mem_singleton.1 new]
        exact Nat.lt_succ_self _
    · simp only [List.length_append, List.length_singleton, holds.size_eq]

theorem Holds.get?_modify (holds : s.Holds items) (key other : Key) {f : Entry α → Entry α}
    (seq_eq : ∀ entry, (f entry).seq = entry.seq) :
    (s.modify key f).get? other = if other = key then (s.get? key).map f else s.get? other := by
  have changed := (holds.toConsistent.updateOwn key (fun shard => shard.modify key f)
    (fun shard other different => by rw [Shard.get?_modify, if_neg different])
    fun shard atIndex => (holds.indexed shard (List.mem_of_getElem? atIndex)).modify seq_eq).2
  rw [Store.modify, changed, Shard.get?_modify, if_pos rfl]
  rfl

/-- A change of one entry that keeps its number keeps its place. -/
theorem Holds.modify (holds : s.Holds items) (key : Key) {f : Entry α → Entry α}
    (seq_eq : ∀ entry, (f entry).seq = entry.seq) :
    (s.modify key f).Holds
      (items.map fun item => if item.1 = key then (key, f item.2) else item) := by
  have consistent := (holds.toConsistent.updateOwn key (fun shard => shard.modify key f)
    (fun shard other different => by rw [Shard.get?_modify, if_neg different])
    fun shard atIndex => (holds.indexed shard (List.mem_of_getElem? atIndex)).modify seq_eq).1
  have lookup := fun other => holds.get?_modify key other seq_eq
  have number : ∀ item : Key × Entry α,
      (if item.1 = key then (key, f item.2) else item).2.seq = item.2.seq := by
    intro item
    split
    · exact seq_eq item.2
    · rfl
  refine { consistent with lookup := ?_, sorted := ?_, issued := ?_, size_eq := ?_ }
  · intro other entry
    rw [lookup, List.mem_map]
    by_cases same : other = key
    · subst same
      rw [if_pos rfl, Option.map_eq_some_iff]
      constructor
      · rintro ⟨old, found, rfl⟩
        exact ⟨(other, old), (holds.lookup _ _).1 found, by simp⟩
      · rintro ⟨⟨stored, old⟩, member, equal⟩
        by_cases own : stored = other
        · subst own
          simp only [if_true, Prod.mk.injEq, true_and] at equal
          exact ⟨old, (holds.lookup _ _).2 member, equal⟩
        · rw [if_neg own] at equal
          exact absurd (congrArg Prod.fst equal) own
    · rw [if_neg same, holds.lookup]
      constructor
      · intro member
        exact ⟨(other, entry), member, by simp [same]⟩
      · rintro ⟨⟨stored, old⟩, member, equal⟩
        by_cases own : stored = key
        · simp only [own, if_true, Prod.mk.injEq] at equal
          exact absurd equal.1.symm same
        · simp only [own, if_false] at equal
          exact equal ▸ member
  · rw [List.pairwise_map]
    simpa only [number] using holds.sorted
  · intro item member
    obtain ⟨old, oldMember, rfl⟩ := List.mem_map.1 member
    rw [number]
    exact holds.issued old oldMember
  · rw [List.length_map]
    exact holds.size_eq

theorem room_of_insert? {key : Key} {entry : Entry α} {stored : Store α}
    (inserted : s.insert? key entry = some stored) : s.size < s.capacity := by
  by_contra full
  simp [insert?, full] at inserted

theorem Holds.get?_insert (holds : s.Holds items) {key : Key} {entry : Entry α}
    (absent : s.get? key = none) {stored : Store α}
    (inserted : s.insert? key entry = some stored) (other : Key) :
    stored.get? other = if other = key then some { entry with seq := s.nextSeq } else s.get? other := by
  obtain ⟨_, again, left, _⟩ := holds.insert entry absent (room_of_insert? inserted)
  cases Option.some.inj (inserted.symm.trans again)
  apply Option.ext
  intro old
  rw [left.lookup, List.mem_append, List.mem_singleton, ← holds.lookup]
  by_cases same : other = key
  · simp [same, absent, eq_comm]
  · simp [same]

theorem Holds.distinct_keys (holds : s.Holds items) : (items.map Prod.fst).Nodup :=
  (holds.perm.map Prod.fst).nodup_iff.1 holds.keys_nodup

/-- Exactly one pair has the key of a stored pair. -/
theorem Holds.length_without (holds : s.Holds items) {item : Key × Entry α}
    (member : item ∈ items) :
    (items.filter fun other => other.1 ≠ item.1).length = items.length - 1 := by
  have erased : ((items.map Prod.fst).erase item.1).length = items.length - 1 := by
    rw [List.length_erase_of_mem (List.mem_map_of_mem member), List.length_map]
  rw [holds.distinct_keys.erase_eq_filter, List.filter_map, List.length_map] at erased
  simpa only [Function.comp_def, bne_iff_ne, ne_eq, decide_not, bne, beq_eq_decide] using erased

/-- A store without one of its keys. -/
theorem Holds.without (holds : s.Holds items) {item : Key × Entry α} (member : item ∈ items)
    (consistent : t.Consistent)
    (lookup : ∀ key, t.get? key = if key = item.1 then none else s.get? key)
    (nextSeq : t.nextSeq = s.nextSeq) (size : t.size = s.size - 1) :
    t.Holds (items.filter fun other => other.1 ≠ item.1) := by
  refine { consistent with lookup := ?_, sorted := ?_, issued := ?_, size_eq := ?_ }
  · intro key entry
    rw [lookup, List.mem_filter, ← holds.lookup]
    by_cases same : key = item.1
    · simp [same]
    · simp [same]
  · exact holds.sorted.filter _
  · intro other left
    rw [nextSeq]
    exact holds.issued other (List.mem_of_mem_filter left)
  · rw [size, holds.size_eq, holds.length_without member]

end Store

end GossipGate
