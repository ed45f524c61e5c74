import GossipGate.Proofs.Comparison
import GossipGate.Proofs.Leader
import GossipGate.Proofs.Ledger
import GossipGate.Proofs.StoredItems

namespace GossipGate

variable {α : Type} {s : Store α} {items : List (Key × Entry α)}

/-- An eviction that took one stored pair and left all others as they were. -/
structure Eviction.Takes (eviction : Eviction α) (s : Store α) (items : List (Key × Entry α))
    (item : Key × Entry α) : Prop where
  member : item ∈ items
  victim : eviction.victim = some item.2
  left : eviction.left.Holds (items.filter fun other => other.1 ≠ item.1)
  capacity : eviction.left.capacity = s.capacity
  nextSeq : eviction.left.nextSeq = s.nextSeq

namespace Store

/-- The store after one of its pairs was erased in the shard of its key. -/
def erased (s : Store α) (key : Key) : Store α :=
  { s.updateShard (s.shardIndex key) fun shard => shard.erase key with size := s.size - 1 }

theorem Holds.takes_erased (holds : s.Holds items) {item : Key × Entry α} (member : item ∈ items) :
    Eviction.Takes ⟨some item.2, s.erased item.1⟩ s items item := by
  obtain ⟨consistent, changed⟩ := holds.toConsistent.updateOwn item.1
    (fun shard => shard.erase item.1)
    (fun shard key different => by rw [Shard.get?_erase, if_neg different])
    fun shard atIndex => (holds.indexed shard (List.mem_of_getElem? atIndex)).erase
  refine { member, victim := rfl, left := ?_, capacity := rfl, nextSeq := rfl }
  refine holds.without member ⟨consistent.occupied, consistent.placed, consistent.indexed⟩ ?_
    rfl rfl
  intro key
  show (s.updateShard _ _).get? key = _
  rw [changed, Shard.get?_erase, if_pos rfl]

/-- The front record of its shard is at most the number of an entry. -/
theorem Holds.front_le (holds : s.Holds items) {item : Key × Entry α} (member : item ∈ items) :
    ∃ seq, (s.shard item.1).oldest? = some seq ∧ seq ≤ item.2.seq := by
  have indexed := holds.indexed _ (List.mem_of_getElem? (holds.shard_eq item.1))
  have recorded : (item.2.seq, item.1) ∈ (s.shard item.1).order :=
    (indexed.record_iff _ _).2 ⟨item.2, (holds.lookup item.1 item.2).2 member, rfl⟩
  have sorted := indexed.sorted
  unfold Shard.oldest?
  cases front : (s.shard item.1).order with
  | nil => simp [front] at recorded
  | cons first rest =>
    refine ⟨first.1, rfl, ?_⟩
    rw [front, List.pairwise_cons] at sorted
    rw [front] at recorded
    rcases List.mem_cons.1 recorded with same | later
    · rw [← same]
    · exact (sorted.1 _ later).le

theorem Holds.oldestShard?_eq_none (holds : s.Holds items) (empty : s.oldestShard? = none) :
    items = [] := by
  refine List.eq_nil_iff_forall_not_mem.2 fun item member => ?_
  obtain ⟨seq, front, _⟩ := holds.front_le member
  have candidates := leading?_eq_none_iff.1 empty
  rw [List.filterMap_eq_nil_iff] at candidates
  have absent := candidates (s.shard item.1, s.shardIndex item.1)
    (List.mem_zipIdx_iff_getElem?.2 (holds.shard_eq item.1))
  simp [front] at absent

/-- The shard with the oldest record of all holds the first pair of the list, as its front. -/
theorem Holds.oldestShard?_eq_some (holds : s.Holds items) {found : Nat × Nat}
    (picked : s.oldestShard? = some found) : ∃ item rest shard records, items = item :: rest ∧
      s.shards[found.2]? = some shard ∧ shard.order = (item.2.seq, item.1) :: records := by
  have member := leading?_mem picked
  obtain ⟨⟨shard, index⟩, inShards, front⟩ := List.mem_filterMap.1 member
  rw [List.mem_zipIdx_iff_getElem?] at inShards
  simp only [Option.map_eq_some_iff] at front
  obtain ⟨seq, oldest, rfl⟩ := front
  obtain ⟨⟨first, key⟩, atFront, rfl⟩ := Option.map_eq_some_iff.1 oldest
  obtain ⟨records, order_eq⟩ := List.head?_eq_some_iff.1 atFront
  have indexed := holds.indexed shard (List.mem_of_getElem? inShards)
  have recorded : (first, key) ∈ shard.order := by simp [order_eq]
  obtain ⟨entry, stored, rfl⟩ := (indexed.record_iff first key).1 recorded
  have inItems := (holds.lookup key entry).1 (holds.get?_of_shard inShards stored)
  cases items with
  | nil => cases inItems
  | cons item rest =>
    obtain ⟨seq, itemFront, seq_le⟩ := holds.front_le (List.mem_cons_self (a := item) (l := rest))
    have candidate : (seq, s.shardIndex item.1) ∈ s.shards.zipIdx.filterMap fun place =>
        place.1.oldest?.map fun seq => (seq, place.2) := by
      refine List.mem_filterMap.2 ⟨(s.shard item.1, s.shardIndex item.1), ?_, by simp [itemFront]⟩
      exact List.mem_zipIdx_iff_getElem?.2 (holds.shard_eq item.1)
    have least := leading?_least Prod.fst (by simp) picked _ candidate
    have same : (key, entry) = item := by
      rcases List.mem_cons.1 inItems with same | later
      · exact same
      · have lower := (List.pairwise_cons.1 holds.sorted).1 _ later
        simp only at least lower
        omega
    subst same
    exact ⟨_, rest, shard, records, rfl, inShards, order_eq⟩

theorem Holds.evictOldest_nil (holds : s.Holds []) : s.evictOldest = ⟨none, s⟩ := by
  have nothing : s.oldestShard? = none := by
    cases picked : s.oldestShard? with
    | none => rfl
    | some found =>
      obtain ⟨_, _, _, _, impossible, _⟩ := holds.oldestShard?_eq_some picked
      cases impossible
  simp only [evictOldest, nothing]

/-- The oldest insertion goes first. -/
theorem Holds.evictOldest_cons {item : Key × Entry α} {rest : List (Key × Entry α)}
    (holds : s.Holds (item :: rest)) : s.evictOldest.Takes s (item :: rest) item := by
  cases picked : s.oldestShard? with
  | none => cases holds.oldestShard?_eq_none picked
  | some found =>
    obtain ⟨first, _, shard, records, same, atIndex, front⟩ := holds.oldestShard?_eq_some picked
    cases same
    obtain ⟨entry, stored, _, popped⟩ :=
      (holds.indexed shard (List.mem_of_getElem? atIndex)).popOldest front
    have own := holds.placed found.2 shard atIndex item.1 entry stored
    have lookup := (holds.lookup item.1 item.2).2 List.mem_cons_self
    rw [holds.get?_of_shard atIndex stored] at lookup
    cases Option.some.inj lookup
    have eviction_eq : s.evictOldest = ⟨some item.2, s.erased item.1⟩ := by
      simp only [evictOldest, picked, atIndex, Option.getD_some, popped, Option.isSome_some,
        if_true, erased, updateShard, own, List.modify_eq_set_getElem?]
      rfl
    rw [eviction_eq]
    exact holds.takes_erased List.mem_cons_self

variable [Scalar α]

theorem Holds.lowest?_eq_none_iff (holds : s.Holds items) (score : Entry α → α) :
    s.lowest? score = none ↔ items = [] := by
  unfold lowest?
  rw [leading?_eq_none_iff, List.map_eq_nil_iff]
  constructor
  · intro empty
    have perm := holds.perm
    rw [empty] at perm
    exact perm.symm.eq_nil
  · rintro rfl
    exact holds.perm.eq_nil

/-- Whatever the scores are, one stored pair goes. -/
theorem Holds.evictLowest_mem (holds : s.Holds items) {score : Entry α → α}
    {found : Key × Entry α × α} (picked : s.lowest? score = some found) :
    (s.evictLowest score).Takes s items (found.1, found.2.1) := by
  obtain ⟨⟨key, entry⟩, member, rfl⟩ := List.mem_map.1 (leading?_mem picked)
  have eviction_eq : s.evictLowest score = ⟨some entry, s.erased key⟩ := by
    simp only [evictLowest, picked]
    rfl
  rw [eviction_eq]
  exact holds.takes_erased ((holds.lookup key entry).1 (holds.mem_toList.1 member))

/-- The place of a scored entry in the order of eviction: its score first, then its number. -/
theorem goesBefore_iff_place [OrderedScalar α] : ∃ (Place : Type) (_ : LinearOrder Place)
    (place : Key × Entry α × α → Place), ∀ a b, Scalar.IsNumber a.2.2 → Scalar.IsNumber b.2.2 →
      ((goesBefore a b = true ↔ place a < place b) ∧
        (place a ≤ place b → ¬b.2.2 < a.2.2 ∧ (¬a.2.2 < b.2.2 → a.2.1.seq ≤ b.2.1.seq))) := by
  obtain ⟨Place, order, place, compares⟩ := OrderedScalar.exists_place (α := α)
  refine ⟨Place ×ₗ Nat, inferInstance, fun item => toLex (place item.2.2, item.2.1.seq), ?_⟩
  intro a b left right
  have less := (compares a.2.2 b.2.2 left right).1
  have equal := (compares a.2.2 b.2.2 left right).2
  have more := (compares b.2.2 a.2.2 right left).1
  constructor
  · simp only [goesBefore, Prod.Lex.toLex_lt_toLex, Bool.or_eq_true, Bool.and_eq_true,
      decide_eq_true_eq, less, equal]
  · intro lower
    rw [Prod.Lex.toLex_le_toLex] at lower
    simp only [less, more]
    rcases lower with below | ⟨same, number⟩
    · exact ⟨below.asymm, fun above => absurd below above⟩
    · simp only at same
      exact ⟨same.not_gt, fun _ => number⟩

/-- Among numbers the scan ends at the earliest pair of minimal score, whatever the order in which
shards and tables are visited. -/
theorem Holds.lowest?_eq [OrderedScalar α] (holds : s.Holds items) (score : Entry α → α)
    (numbers : ∀ item ∈ items, Scalar.IsNumber (score item.2)) :
    (s.lowest? score).map (fun found => (found.1, found.2.1)) = earliestLowest? score items := by
  obtain ⟨Place, _, place, compares⟩ := goesBefore_iff_place (α := α)
  cases picked : s.lowest? score with
  | none =>
    rw [(holds.lowest?_eq_none_iff score).1 picked]
    rfl
  | some found =>
    have scanned : ∀ key entry, (key, entry) ∈ items →
        (key, entry, score entry) ∈ s.toList.map fun item => (item.1, item.2, score item.2) := by
      intro key entry member
      exact List.mem_map.2 ⟨(key, entry), holds.perm.mem_iff.2 member, rfl⟩
    have scored : ∀ candidate ∈ s.toList.map fun item => (item.1, item.2, score item.2),
        Scalar.IsNumber candidate.2.2 := by
      intro candidate member
      obtain ⟨item, stored, rfl⟩ := List.mem_map.1 member
      exact numbers item (holds.perm.mem_iff.1 stored)
    have least := leading?_least place
      (fun a left b right => (compares a b (scored a left) (scored b right)).1) picked
    obtain ⟨⟨key, entry⟩, stored, rfl⟩ := List.mem_map.1 (leading?_mem picked)
    have member := holds.perm.mem_iff.1 stored
    have lowest : ∀ other ∈ items, ¬score other.2 < score entry ∧
        (¬score entry < score other.2 → entry.seq ≤ other.2.seq) := by
      rintro ⟨other, otherEntry⟩ inItems
      have candidate := scanned other otherEntry inItems
      exact (compares _ _ (numbers _ member) (numbers _ inItems)).2 (least _ candidate)
    -- Visits follow no order, so that no earlier pair ties is read off the numbers.
    obtain ⟨earlier, later, split⟩ := List.append_of_mem member
    refine (List.find?_eq_some_iff_append.2 ⟨?_, earlier, later, split, ?_⟩).symm
    · simpa using fun other otherEntry inItems => (lowest (other, otherEntry) inItems).1
    · intro other inEarlier
      have inItems : other ∈ items := by simp [split, inEarlier]
      have sorted := holds.sorted
      rw [split, List.pairwise_append] at sorted
      have older := sorted.2.2 other inEarlier (key, entry) List.mem_cons_self
      have lower : score entry < score other.2 := by
        by_contra notLower
        have number := (lowest other inItems).2 notLower
        simp only at older
        omega
      simp only [Bool.not_eq_true', List.all_eq_false]
      exact ⟨(key, entry), member, by simp [lower]⟩

/-- The eviction by score takes the earliest pair of minimal score, and none from an empty store
only. -/
theorem Holds.evictLowest [OrderedScalar α] (holds : s.Holds items) (score : Entry α → α)
    (numbers : ∀ item ∈ items, Scalar.IsNumber (score item.2)) :
    match earliestLowest? score items with
    | some item => (s.evictLowest score).Takes s items item
    | none => items = [] ∧ s.evictLowest score = ⟨none, s⟩ := by
  have lowest := holds.lowest?_eq score numbers
  cases picked : s.lowest? score with
  | none =>
    rw [picked] at lowest
    rw [← lowest]
    refine ⟨(holds.lowest?_eq_none_iff score).1 picked, ?_⟩
    simp only [Store.evictLowest, picked]
  | some found =>
    rw [picked] at lowest
    rw [← lowest]
    exact holds.evictLowest_mem picked

omit [Scalar α] in
theorem Holds.retain (holds : s.Holds items) (keep : Entry α → Bool) :
    (s.retain keep).1.Holds (items.filter fun item => keep item.2) ∧
      (s.retain keep).2 = items.length - (items.filter fun item => keep item.2).length := by
  have shards_eq : (s.retain keep).1.shards = s.shards.map fun shard => shard.retain keep := rfl
  have removed : (s.retain keep).2 =
      items.length - (items.filter fun item => keep item.2).length := by
    have count : (s.retain keep).2 = (items.filter fun item => !keep item.2).length := by
      have perm := (holds.perm.map Prod.snd).filter fun entry => !keep entry
      rw [List.filter_map (l := items)] at perm
      simpa only [Store.retain, entries, List.length_map, Function.comp_def] using perm.length_eq
    have split := List.length_eq_length_filter_add (l := items) fun item => keep item.2
    rw [count]
    omega
  have lookup : ∀ key, (s.retain keep).1.get? key = (s.get? key).filter keep := by
    intro key
    have own : (s.retain keep).1.shardIndex key = s.shardIndex key := by
      simp [shardIndex, Store.retain]
    have updated : (s.retain keep).1.shard key = (s.shard key).retain keep := by
      have atKey := holds.shard_eq key
      unfold shard at atKey ⊢
      rw [own, shards_eq, List.getElem?_map, atKey]
      rfl
    simp only [get?, updated, Shard.get?_retain]
  refine ⟨?_, removed⟩
  refine ⟨⟨?_, ?_, ?_⟩, ?_, ?_, ?_, ?_⟩
  · rw [shards_eq, List.length_map]
    exact holds.occupied
  · intro index shard atIndex key entry found
    rw [shards_eq, List.getElem?_map] at atIndex
    obtain ⟨old, atOld, rfl⟩ := Option.map_eq_some_iff.1 atIndex
    rw [Shard.get?_retain] at found
    have own := holds.placed index old atOld key entry (Option.filter_eq_some_iff.1 found).1
    simpa [shardIndex, shards_eq, Store.retain] using own
  · intro shard member
    rw [shards_eq] at member
    obtain ⟨old, oldMember, rfl⟩ := List.mem_map.1 member
    exact (holds.indexed old oldMember).retain keep
  · intro key entry
    rw [lookup, Option.filter_eq_some_iff, List.mem_filter, holds.lookup]
  · exact holds.sorted.filter _
  · intro item member
    exact holds.issued item (List.mem_of_mem_filter member)
  · have fewer := List.length_filter_le (fun item => keep item.2) items
    show s.size - (s.retain keep).2 = _
    rw [removed, holds.size_eq]
    omega

end Store

end GossipGate
