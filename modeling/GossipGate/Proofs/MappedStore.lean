import GossipGate.Engine.Admission
import GossipGate.Proofs.StoredItems

namespace GossipGate

namespace Table

variable {κ ν : Type} {t : Table κ ν} {f : ν → ν}

theorem mapValues_filter {keep keepMapped : κ → ν → Bool}
    (same : ∀ key value, keepMapped key (f value) = keep key value) :
    (t.filter keep).mapValues (fun _ => f) = (t.mapValues fun _ => f).filter keepMapped := by
  apply Table.ext
  simp [filter, mapValues, List.filter_map, Function.comp_def, same]

/-- Values that are changed twice may be changed in the other order, where that makes no
difference. -/
theorem mapValues_mapValues {change changeMapped : κ → ν → ν}
    (same : ∀ key value, f (change key value) = changeMapped key (f value)) :
    (t.mapValues change).mapValues (fun _ => f) =
      (t.mapValues fun _ => f).mapValues changeMapped := by
  apply Table.ext
  simp only [mapValues, List.map_map]
  exact List.map_congr_left fun pair _ => Prod.ext rfl (same pair.1 pair.2)

variable [DecidableEq κ]

theorem mapValues_modify {change g : ν → ν} (same : ∀ value, f (change value) = g (f value))
    (key : κ) :
    (t.modify key change).mapValues (fun _ => f) = (t.mapValues fun _ => f).modify key g := by
  refine mapValues_mapValues fun other value => ?_
  by_cases own : other = key <;> simp [own, same]

theorem mapValues_insert (t : Table κ ν) (f : ν → ν) (key : κ) (value : ν) :
    (t.insert key value).mapValues (fun _ => f) =
      (t.mapValues fun _ => f).insert key (f value) := by
  have found := t.get?_mapValues (fun _ => f) key
  unfold insert
  split
  · rename_i absent
    rw [absent, Option.map_none] at found
    rw [dif_pos found]
    apply Table.ext
    simp [mapValues]
  · rename_i present
    obtain ⟨old, stored⟩ := Option.ne_none_iff_exists'.1 present
    rw [stored, Option.map_some] at found
    rw [dif_neg (by rw [found]; exact Option.some_ne_none _)]
    exact mapValues_modify (g := fun _ => f value) (fun _ => rfl) key

end Table

/-- The leader of changed candidates is the changed leader, where the order stays the same. -/
theorem leading?_map {β γ : Type} {before : β → β → Bool} {beforeMapped : γ → γ → Bool}
    {g : β → γ} (same : ∀ a b, beforeMapped (g a) (g b) = before a b) (candidates : List β) :
    leading? beforeMapped (candidates.map g) = (leading? before candidates).map g := by
  have leads : ∀ (rest : List β) (best : β),
      leader beforeMapped (g best) (rest.map g) = g (leader before best rest) := by
    intro rest
    induction rest with
    | nil => exact fun _ => rfl
    | cons candidate rest ih =>
      intro best
      simp only [List.map_cons, leader, same]
      rw [← ih, apply_ite g]
  cases candidates with
  | nil => rfl
  | cons first rest => exact congrArg some (leads rest first)

variable {α : Type} {f : Entry α → Entry α}

/-- A change of entries that neither reads nor changes their numbers. -/
def Entry.Unnumbered (f : Entry α → Entry α) : Prop :=
  ∀ (entry : Entry α) (seq : Nat), f { entry with seq } = { f entry with seq }

theorem Entry.Unnumbered.seq (unnumbered : Entry.Unnumbered f) (entry : Entry α) :
    (f entry).seq = entry.seq := by
  show (f { entry with seq := entry.seq }).seq = entry.seq
  rw [unnumbered]

namespace Shard

variable {s : Shard α}

/-- The same shard with changed entries. -/
def mapEntries (f : Entry α → Entry α) (s : Shard α) : Shard α :=
  { s with entries := s.entries.mapValues fun _ => f }

theorem get?_mapEntries (s : Shard α) (key : Key) :
    (s.mapEntries f).get? key = (s.get? key).map f :=
  Table.get?_mapValues _ _ _

theorem insert_mapEntries (unnumbered : Entry.Unnumbered f) (s : Shard α) (key : Key)
    (entry : Entry α) :
    (s.insert key entry).mapEntries f = (s.mapEntries f).insert key (f entry) := by
  unfold insert mapEntries
  rw [Table.mapValues_insert, unnumbered.seq]

theorem modify_mapEntries {g h : Entry α → Entry α}
    (same : ∀ entry, f (g entry) = h (f entry)) (key : Key) :
    (s.modify key g).mapEntries f = (s.mapEntries f).modify key h :=
  congrArg (Shard.mk · _) (Table.mapValues_modify same key)

theorem erase_entries (entries : Table Key (Entry α)) (key : Key) :
    (entries.erase key).mapValues (fun _ => f) = (entries.mapValues fun _ => f).erase key :=
  Table.mapValues_filter fun _ _ => rfl

theorem erase_mapEntries (unnumbered : Entry.Unnumbered f) (s : Shard α) (key : Key) :
    (s.mapEntries f).erase key = (s.erase key).mapEntries f := by
  unfold erase
  rw [get?_mapEntries]
  cases s.get? key with
  | none => rfl
  | some entry =>
    simp only [Option.map_some, unnumbered.seq]
    exact congrArg (Shard.mk · _) (erase_entries s.entries key).symm

theorem popOldest_mapEntries (s : Shard α) :
    (s.mapEntries f).popOldest = (s.popOldest.1.map f, s.popOldest.2.mapEntries f) := by
  obtain ⟨entries, order⟩ := s
  cases order with
  | nil => rfl
  | cons record rest =>
    exact Prod.ext (get?_mapEntries _ _)
      (congrArg (Shard.mk · rest) (erase_entries entries record.2).symm)

theorem retain_mapEntries (unnumbered : Entry.Unnumbered f) {keep keepMapped : Entry α → Bool}
    (same : ∀ entry, keepMapped (f entry) = keep entry) :
    (s.retain keep).mapEntries f = (s.mapEntries f).retain keepMapped := by
  have removed : ((s.mapEntries f).entries.values.filter fun entry => !keepMapped entry) =
      (s.entries.values.filter fun entry => !keep entry).map f := by
    simp [mapEntries, Table.values, Table.mapValues, List.filter_map, Function.comp_def, same]
  have kept : (s.entries.filter fun _ entry => keep entry).mapValues (fun _ => f) =
      (s.mapEntries f).entries.filter fun _ entry => keepMapped entry :=
    Table.mapValues_filter fun _ => same
  unfold retain
  rw [removed, ← kept]
  refine congrArg (Shard.mk _) (List.filter_congr fun record _ => ?_)
  simp only [List.any_map, Function.comp_def, unnumbered.seq]

end Shard

namespace Store

variable {s t : Store α}

/-- The same store with changed entries. -/
def mapEntries (f : Entry α → Entry α) (s : Store α) : Store α :=
  { s with shards := s.shards.map (Shard.mapEntries f) }

@[simp] theorem mapEntries_size : (s.mapEntries f).size = s.size := rfl
@[simp] theorem mapEntries_capacity : (s.mapEntries f).capacity = s.capacity := rfl
@[simp] theorem mapEntries_nextSeq : (s.mapEntries f).nextSeq = s.nextSeq := rfl

theorem mapEntries_empty (shards capacity : Nat) (place : Key → Nat) :
    (empty shards capacity place : Store α).mapEntries f = empty shards capacity place := by
  unfold empty mapEntries
  rw [List.map_replicate]
  rfl

theorem shardIndex_mapEntries (s : Store α) (key : Key) :
    (s.mapEntries f).shardIndex key = s.shardIndex key := by
  unfold shardIndex mapEntries
  rw [List.length_map]

theorem shardAt_mapEntries (s : Store α) (index : Nat) :
    ((s.mapEntries f).shards[index]?).getD .empty =
      ((s.shards[index]?).getD .empty).mapEntries f := by
  unfold mapEntries
  rw [List.getElem?_map]
  cases s.shards[index]? <;> rfl

theorem get?_mapEntries (s : Store α) (key : Key) :
    (s.mapEntries f).get? key = (s.get? key).map f := by
  unfold get? shard
  rw [shardIndex_mapEntries, shardAt_mapEntries]
  exact Shard.get?_mapEntries _ key

theorem updateShard_mapEntries {g h : Shard α → Shard α}
    (same : ∀ shard, (g shard).mapEntries f = h (shard.mapEntries f)) (index : Nat) :
    (s.updateShard index g).mapEntries f = (s.mapEntries f).updateShard index h := by
  have shards : (s.shards.modify index g).map (Shard.mapEntries f) =
      (s.shards.map (Shard.mapEntries f)).modify index h := by
    apply List.ext_getElem?
    intro place
    simp only [List.getElem?_map, List.getElem?_modify]
    cases s.shards[place]? with
    | none => rfl
    | some shard => by_cases own : index = place <;> simp [own, same]
  simp only [updateShard, mapEntries, shards]

theorem insert?_mapEntries (unnumbered : Entry.Unnumbered f) (s : Store α) (key : Key)
    (entry : Entry α) :
    (s.mapEntries f).insert? key (f entry) = (s.insert? key entry).map (mapEntries f) := by
  have stored : (s.updateShard (s.shardIndex key) fun shard =>
      shard.insert key { entry with seq := s.nextSeq }).mapEntries f =
        (s.mapEntries f).updateShard (s.shardIndex key) fun shard =>
          shard.insert key { f entry with seq := s.nextSeq } := by
    refine updateShard_mapEntries (fun shard => ?_) _
    rw [shard.insert_mapEntries unnumbered, unnumbered]
  unfold insert?
  rw [shardIndex_mapEntries, mapEntries_size, mapEntries_capacity]
  split
  · refine congrArg some ?_
    show ({ (s.mapEntries f).updateShard _ _ with
        size := s.size + 1, nextSeq := s.nextSeq + 1 } : Store α) =
      { (s.updateShard _ _).mapEntries f with size := s.size + 1, nextSeq := s.nextSeq + 1 }
    rw [stored]
    rfl
  · rfl

theorem modify_mapEntries {g h : Entry α → Entry α}
    (same : ∀ entry, f (g entry) = h (f entry)) (key : Key) :
    (s.modify key g).mapEntries f = (s.mapEntries f).modify key h := by
  unfold modify
  rw [shardIndex_mapEntries]
  exact updateShard_mapEntries (fun shard => Shard.modify_mapEntries same key) _

theorem oldestShard?_mapEntries (s : Store α) :
    (s.mapEntries f).oldestShard? = s.oldestShard? := by
  unfold oldestShard? mapEntries
  rw [List.zipIdx_map, List.filterMap_map]
  rfl

theorem toList_mapEntries (s : Store α) :
    (s.mapEntries f).toList = s.toList.map fun item => (item.1, f item.2) := by
  unfold toList mapEntries
  rw [List.flatMap_map, List.map_flatMap]
  rfl

theorem entries_mapEntries (s : Store α) : (s.mapEntries f).entries = s.entries.map f := by
  unfold entries
  rw [toList_mapEntries, List.map_map, List.map_map]
  rfl

theorem retain_mapEntries (unnumbered : Entry.Unnumbered f) {keep keepMapped : Entry α → Bool}
    (same : ∀ entry, keepMapped (f entry) = keep entry) (s : Store α) :
    (s.mapEntries f).retain keepMapped = ((s.retain keep).1.mapEntries f, (s.retain keep).2) := by
  have removed : ((s.mapEntries f).entries.filter fun entry => !keepMapped entry).length =
      (s.entries.filter fun entry => !keep entry).length := by
    rw [entries_mapEntries, List.filter_map, List.length_map]
    simp only [Function.comp_def, same]
  have shards : (s.mapEntries f).shards.map (fun shard => shard.retain keepMapped) =
      (s.shards.map fun shard => shard.retain keep).map (Shard.mapEntries f) := by
    unfold mapEntries
    rw [List.map_map, List.map_map]
    exact List.map_congr_left fun shard _ => (Shard.retain_mapEntries unnumbered same).symm
  unfold retain
  simp only [removed, shards]
  rfl

theorem mapEntries_shard {index : Nat} {shard : Shard α}
    (found : (s.mapEntries f).shards[index]? = some shard) :
    ∃ own, s.shards[index]? = some own ∧ shard = own.mapEntries f := by
  unfold mapEntries at found
  rw [List.getElem?_map] at found
  obtain ⟨own, stored, rfl⟩ := Option.map_eq_some_iff.1 found
  exact ⟨own, stored, rfl⟩

theorem Reordered.mapEntries (reordered : s.Reordered t) :
    (s.mapEntries f).Reordered (t.mapEntries f) where
  place := reordered.place
  size := reordered.size
  capacity := reordered.capacity
  nextSeq := reordered.nextSeq
  length := by
    unfold Store.mapEntries
    rw [List.length_map, List.length_map, reordered.length]
  records := by
    intro index _ _ left right
    obtain ⟨before, first, rfl⟩ := mapEntries_shard left
    obtain ⟨after, second, rfl⟩ := mapEntries_shard right
    exact reordered.records index before after first second
  tables := by
    intro index _ _ left right
    obtain ⟨before, first, rfl⟩ := mapEntries_shard left
    obtain ⟨after, second, rfl⟩ := mapEntries_shard right
    exact (reordered.tables index before after first second).map _

end Store

/-! ### Evictions and admissions -/

def Eviction.mapEntries (f : Entry α → Entry α) (eviction : Eviction α) : Eviction α :=
  ⟨eviction.victim.map f, eviction.left.mapEntries f⟩

def Admission.mapEntries (f : Entry α → Entry α) (admission : Admission α) : Admission α :=
  ⟨admission.store.mapEntries f, admission.outcome, admission.evicted.map f⟩

namespace Store

theorem evictOldest_mapEntries (s : Store α) :
    (s.mapEntries f).evictOldest = s.evictOldest.mapEntries f := by
  unfold evictOldest
  rw [oldestShard?_mapEntries]
  cases s.oldestShard? with
  | none => rfl
  | some oldest =>
    obtain ⟨_, index⟩ := oldest
    simp only [shardAt_mapEntries, Shard.popOldest_mapEntries, Option.isSome_map]
    unfold Eviction.mapEntries mapEntries
    simp only [List.map_set]

variable [Scalar α]

theorem evictLowest_mapEntries (unnumbered : Entry.Unnumbered f) {score scoreMapped : Entry α → α}
    (same : ∀ entry, scoreMapped (f entry) = score entry) (s : Store α) :
    (s.mapEntries f).evictLowest scoreMapped = (s.evictLowest score).mapEntries f := by
  let change : Key × Entry α × α → Key × Entry α × α := fun item => (item.1, f item.2.1, item.2.2)
  have lowest : (s.mapEntries f).lowest? scoreMapped = (s.lowest? score).map change := by
    have ordered : ∀ a b, goesBefore (change a) (change b) = goesBefore a b := by
      intro a b
      simp only [goesBefore, change, unnumbered.seq]
    unfold lowest?
    rw [← leading?_map ordered, toList_mapEntries, List.map_map, List.map_map]
    simp only [Function.comp_def, change, same]
  unfold evictLowest
  rw [lowest]
  cases s.lowest? score with
  | none => rfl
  | some item =>
    obtain ⟨key, entry, _⟩ := item
    let erase : Shard α → Shard α := fun shard => shard.erase key
    have erased := updateShard_mapEntries (s := s) (f := f) (g := erase) (h := erase)
      (fun shard => (shard.erase_mapEntries unnumbered key).symm) (s.shardIndex key)
    simp only [Option.map_some, change, shardIndex_mapEntries]
    show Eviction.mk (some (f entry))
      { (s.mapEntries f).updateShard (s.shardIndex key) erase with size := s.size - 1 } = _
    rw [← erased]
    rfl

end Store

namespace Engine

variable [Scalar α] {e mirror : Engine α} {now reading : Nat}

theorem evictMany_mapEntries (evicts : ∀ s : Store α,
      mirror.evictOne reading (s.mapEntries f) = (e.evictOne now s).mapEntries f)
    (count : Nat) (s : Store α) : mirror.evictMany reading count (s.mapEntries f) =
      ((e.evictMany now count s).1.mapEntries f, (e.evictMany now count s).2.map f) := by
  induction count generalizing s with
  | zero => rfl
  | succ count ih =>
    unfold evictMany
    rw [evicts]
    obtain ⟨victim, left⟩ := e.evictOne now s
    cases victim with
    | none => rfl
    | some victim => simp only [Eviction.mapEntries, Option.map_some, ih, List.map_cons]

theorem shrink_mapEntries (evicts : ∀ s : Store α,
      mirror.evictOne reading (s.mapEntries f) = (e.evictOne now s).mapEntries f)
    (s : Store α) : mirror.shrink reading (s.mapEntries f) =
      ((e.shrink now s).1.mapEntries f, (e.shrink now s).2.map f) :=
  evictMany_mapEntries evicts _ s

/-- A sighting in another gate that does to changed entries what the first one does to the entries
before the change. -/
structure Mirrors (f : Entry α → Entry α) (e : Engine α) (now : Nat) (seen : Sighting α)
    (mirror : Engine α) (reading : Nat) (image : Sighting α) : Prop where
  unnumbered : Entry.Unnumbered f
  key : image.key = seen.key
  entry : image.entry reading = f (seen.entry now)
  live : ∀ old : Entry α, (f old).isLive reading image.ttl = old.isLive now seen.ttl
  again : ∀ old, f (e.sightAgain now old) = mirror.sightAgain reading (f old)
  restarted : ∀ old : Entry α,
    f (old.restart now seen.confidence) = (f old).restart reading image.confidence
  evicts : ∀ s : Store α,
    mirror.evictOne reading (s.mapEntries f) = (e.evictOne now s).mapEntries f

theorem Mirrors.track {seen image : Sighting α} (mirrors : Mirrors f e now seen mirror reading image)
    (attempts : Nat) (s : Store α) : mirror.track reading image attempts (s.mapEntries f) =
      (e.track now seen attempts s).mapEntries f := by
  induction attempts generalizing s with
  | zero => rfl
  | succ attempts ih =>
    unfold Engine.track
    rw [mirrors.key, s.get?_mapEntries]
    cases s.get? seen.key with
    | some entry =>
      have touched : (s.modify seen.key (e.sightAgain now)).mapEntries f =
          (s.mapEntries f).modify seen.key (mirror.sightAgain reading) :=
        Store.modify_mapEntries mirrors.again seen.key
      have restarted : (s.modify seen.key fun old => old.restart now seen.confidence).mapEntries f =
          (s.mapEntries f).modify seen.key fun old => old.restart reading image.confidence :=
        Store.modify_mapEntries mirrors.restarted seen.key
      simp only [Option.map_some, mirrors.live]
      split
      · simp only [Admission.mapEntries, touched]
        rfl
      · simp only [Admission.mapEntries, restarted]
        rfl
    | none =>
      have inserted := s.insert?_mapEntries mirrors.unnumbered seen.key (seen.entry now)
      rw [← mirrors.entry] at inserted
      simp only [Option.map_none, inserted]
      cases s.insert? seen.key (seen.entry now) with
      | some stored => rfl
      | none =>
        rw [mirrors.evicts]
        obtain ⟨victim, left⟩ := e.evictOne now s
        have later := ih left
        simp only [Option.map_none, Eviction.mapEntries, later]
        cases victim <;> simp [Admission.mapEntries]

end Engine

end GossipGate
