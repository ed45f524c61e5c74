import GossipGate.Store.Shard
import Mathlib.Data.List.Basic

namespace GossipGate

theorem Table.get?_congr_perm {κ ν : Type} [DecidableEq κ] {a b : Table κ ν}
    (perm : a.entries.Perm b.entries) (key : κ) : a.get? key = b.get? key := by
  apply Option.ext
  intro value
  rw [← Table.mem_entries_iff, ← Table.mem_entries_iff]
  exact perm.mem_iff

/-- In a list with strictly growing numbers a number belongs to one member only. -/
theorem eq_of_strictly_growing {β : Type} {number : β → Nat} {items : List β}
    (sorted : items.Pairwise fun a b => number a < number b) {a b : β} (left : a ∈ items)
    (right : b ∈ items) (same : number a = number b) : a = b := by
  induction sorted with
  | nil => cases left
  | cons above _ ih =>
    rcases List.mem_cons.1 left with first | inRest <;>
      rcases List.mem_cons.1 right with second | alsoInRest
    · rw [first, second]
    · have lower := above b alsoInRest
      rw [first] at same
      omega
    · have lower := above a inRest
      rw [second] at same
      omega
    · exact ih inRest alsoInRest

namespace Shard

variable {α : Type} {s : Shard α}

/-- The records are those of the stored entries, the older insertion first. -/
structure Indexed (s : Shard α) : Prop where
  sorted : s.order.Pairwise fun a b => a.1 < b.1
  record_iff : ∀ seq key, (seq, key) ∈ s.order ↔ ∃ entry, s.get? key = some entry ∧ entry.seq = seq

theorem indexed_empty : (empty : Shard α).Indexed where
  sorted := .nil
  record_iff := by
    intro seq key
    constructor
    · intro member
      cases member
    · rintro ⟨entry, found, _⟩
      cases found

theorem Indexed.key_eq (indexed : s.Indexed) {seq : Nat} {key other : Key}
    (left : (seq, key) ∈ s.order) (right : (seq, other) ∈ s.order) : key = other :=
  congrArg Prod.snd (eq_of_strictly_growing indexed.sorted left right rfl)

theorem get?_insert (key other : Key) (entry : Entry α) :
    (s.insert key entry).get? other = if other = key then some entry else s.get? other :=
  Table.get?_insert _ _ _ _

theorem get?_modify (key other : Key) (f : Entry α → Entry α) :
    (s.modify key f).get? other = if other = key then (s.get? other).map f else s.get? other :=
  Table.get?_modify _ _ _ _

theorem get?_erase (key other : Key) :
    (s.erase key).get? other = if other = key then none else s.get? other := by
  unfold erase
  cases found : s.get? key with
  | some entry => exact Table.get?_erase _ _ _
  | none =>
    by_cases same : other = key
    · simp only [same, if_true, found]
    · simp only [same, if_false]

theorem get?_retain (keep : Entry α → Bool) (key : Key) :
    (s.retain keep).get? key = (s.get? key).filter keep :=
  Table.get?_filter _ _ _

/-- A new key with a number above all records. -/
theorem Indexed.insert (indexed : s.Indexed) {key : Key} {entry : Entry α}
    (absent : s.get? key = none) (last : ∀ record ∈ s.order, record.1 < entry.seq) :
    (s.insert key entry).Indexed where
  sorted := by
    refine List.pairwise_append.2 ⟨indexed.sorted, List.pairwise_singleton _ _, ?_⟩
    intro record member added isAdded
    rw [List.mem_singleton.1 isAdded]
    exact last record member
  record_iff := by
    intro seq other
    simp only [get?_insert]
    by_cases same : other = key
    · subst same
      have unrecorded : (seq, other) ∉ s.order := by
        intro member
        obtain ⟨old, found, _⟩ := (indexed.record_iff seq other).1 member
        rw [absent] at found
        cases found
      simp [Shard.insert, unrecorded, eq_comm]
    · simp [Shard.insert, same, indexed.record_iff]

theorem Indexed.modify (indexed : s.Indexed) {key : Key} {f : Entry α → Entry α}
    (seq_eq : ∀ entry, (f entry).seq = entry.seq) : (s.modify key f).Indexed where
  sorted := indexed.sorted
  record_iff := by
    intro seq other
    rw [get?_modify]
    refine (indexed.record_iff seq other).trans ?_
    by_cases same : other = key
    · cases s.get? other <;> simp [same, seq_eq]
    · simp only [same, if_false]

theorem Indexed.erase (indexed : s.Indexed) {key : Key} : (s.erase key).Indexed := by
  cases found : s.get? key with
  | none =>
    have same : s.erase key = s := by simp only [Shard.erase, found]
    rw [same]
    exact indexed
  | some entry =>
    have recorded : (entry.seq, key) ∈ s.order := (indexed.record_iff _ _).2 ⟨entry, found, rfl⟩
    have order_eq : (s.erase key).order = s.order.filter fun record => record.1 ≠ entry.seq := by
      simp only [Shard.erase, found]
    refine ⟨?_, ?_⟩
    · rw [order_eq]
      exact indexed.sorted.filter _
    · intro seq other
      rw [order_eq, get?_erase, List.mem_filter, indexed.record_iff]
      by_cases same : other = key
      · subst same
        simp only [found, Option.some.injEq, if_true]
        constructor
        · rintro ⟨⟨stored, rfl, rfl⟩, other⟩
          simp at other
        · rintro ⟨stored, impossible, _⟩
          cases impossible
      · have different : ∀ stored, s.get? other = some stored → stored.seq ≠ entry.seq := by
          intro stored atOther equal
          have member := (indexed.record_iff stored.seq other).2 ⟨stored, atOther, rfl⟩
          rw [equal] at member
          exact same (indexed.key_eq member recorded)
        constructor
        · rintro ⟨kept, _⟩
          simpa only [same, if_false] using kept
        · intro kept
          simp only [same, if_false] at kept
          obtain ⟨stored, atOther, value⟩ := kept
          refine ⟨⟨stored, atOther, value⟩, ?_⟩
          simpa only [← value, decide_eq_true_eq] using different stored atOther

/-- The front record names the entry that goes. -/
theorem Indexed.popOldest (indexed : s.Indexed) {seq : Nat} {key : Key} {rest : List (Nat × Key)}
    (front : s.order = (seq, key) :: rest) :
    ∃ entry, s.get? key = some entry ∧ entry.seq = seq ∧
      s.popOldest = (some entry, s.erase key) := by
  have recorded : (seq, key) ∈ s.order := by simp [front]
  obtain ⟨entry, found, value⟩ := (indexed.record_iff seq key).1 recorded
  refine ⟨entry, found, value, ?_⟩
  have sorted := indexed.sorted
  rw [front, List.pairwise_cons] at sorted
  have others : rest.filter (fun record => record.1 ≠ seq) = rest := by
    refine List.filter_eq_self.2 fun record member => ?_
    have above := sorted.1 record member
    simp only [decide_eq_true_eq]
    omega
  have order_eq : s.order.filter (fun record => record.1 ≠ entry.seq) = rest := by
    rw [value, front, List.filter_cons_of_neg (by simp), others]
  simp only [Shard.popOldest, Shard.erase, front, found] at order_eq ⊢
  rw [order_eq]

theorem Indexed.retain (indexed : s.Indexed) (keep : Entry α → Bool) :
    (s.retain keep).Indexed where
  sorted := indexed.sorted.filter _
  record_iff := by
    intro seq key
    have removed_iff : ∀ entry, s.get? key = some entry → entry.seq = seq →
        ((s.entries.values.filter fun entry => !keep entry).any (fun entry => entry.seq == seq) =
          true ↔ keep entry = false) := by
      intro entry found value
      simp only [List.any_eq_true, List.mem_filter, Bool.not_eq_true', beq_iff_eq]
      constructor
      · rintro ⟨stored, ⟨member, dropped⟩, number⟩
        obtain ⟨⟨other, same⟩, pair, rfl⟩ := List.mem_map.1 member
        have atOther : s.get? other = some same := Table.mem_entries_iff.1 pair
        have recorded := (indexed.record_iff seq key).2 ⟨entry, found, value⟩
        have alsoRecorded := (indexed.record_iff seq other).2 ⟨same, atOther, number⟩
        rw [indexed.key_eq alsoRecorded recorded, found] at atOther
        rw [Option.some.inj atOther]
        exact dropped
      · intro dropped
        have pair : (key, entry) ∈ s.entries.entries := Table.mem_entries_iff.2 found
        exact ⟨entry, ⟨List.mem_map.2 ⟨_, pair, rfl⟩, dropped⟩, value⟩
    rw [get?_retain]
    show (seq, key) ∈ s.order.filter _ ↔ _
    rw [List.mem_filter, indexed.record_iff]
    constructor
    · rintro ⟨⟨entry, found, value⟩, kept⟩
      refine ⟨entry, ?_, value⟩
      have stays := (removed_iff entry found value).not.1 (by simpa using kept)
      simpa [found] using stays
    · rintro ⟨entry, kept, value⟩
      obtain ⟨found, stays⟩ := Option.filter_eq_some_iff.1 kept
      refine ⟨⟨entry, found, value⟩, ?_⟩
      have unmoved := (removed_iff entry found value).not.2 (by simp [stays])
      simpa using unmoved

end Shard

end GossipGate
