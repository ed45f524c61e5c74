import GossipGate.Proofs.Admission
import GossipGate.Proofs.StoreRefinement

namespace GossipGate

variable {α : Type} {s t : Store α}

/-- Two stores that match one ledger, each with shards of its own. -/
def Store.Alike (s t : Store α) : Prop := ∃ l, s.Matches l ∧ t.Matches l

namespace Store

theorem alike_empty (first second capacity : Nat) (place : Key → Nat) :
    (empty first capacity place : Store α).Alike (empty second capacity place) :=
  ⟨_, matches_empty first capacity place, matches_empty second capacity place⟩

theorem Alike.reordered {u v : Store α} (alike : s.Alike t) (left : s.Reordered u)
    (right : t.Reordered v) : u.Alike v := by
  obtain ⟨l, first, second⟩ := alike
  exact ⟨l, first.reordered left, second.reordered right⟩

theorem Alike.get?_eq (alike : s.Alike t) (key : Key) : t.get? key = s.get? key := by
  obtain ⟨l, first, second⟩ := alike
  rw [first.toHolds.get?_eq, second.toHolds.get?_eq]

theorem Alike.size_eq (alike : s.Alike t) : t.size = s.size := by
  obtain ⟨l, first, second⟩ := alike
  rw [first.size_eq, second.size_eq]

theorem Alike.capacity_eq (alike : s.Alike t) : t.capacity = s.capacity := by
  obtain ⟨l, first, second⟩ := alike
  rw [first.capacity_eq, second.capacity_eq]

theorem Alike.setCapacity (alike : s.Alike t) (capacity : Nat) :
    (s.setCapacity capacity).Alike (t.setCapacity capacity) := by
  obtain ⟨l, first, second⟩ := alike
  refine ⟨{ l with capacity }, ?_, ?_⟩
  · exact { first.toHolds.setCapacity capacity with
      capacity_eq := rfl, nextSeq_eq := first.nextSeq_eq }
  · exact { second.toHolds.setCapacity capacity with
      capacity_eq := rfl, nextSeq_eq := second.nextSeq_eq }

theorem Alike.modify (alike : s.Alike t) (key : Key) {f : Entry α → Entry α}
    (seq_eq : ∀ entry, (f entry).seq = entry.seq) : (s.modify key f).Alike (t.modify key f) := by
  obtain ⟨l, first, second⟩ := alike
  refine ⟨⟨l.items.map fun item => if item.1 = key then (key, f item.2) else item, l.capacity,
    l.nextSeq⟩, ?_, ?_⟩
  · exact { first.toHolds.modify key seq_eq with
      capacity_eq := first.capacity_eq, nextSeq_eq := first.nextSeq_eq }
  · exact { second.toHolds.modify key seq_eq with
      capacity_eq := second.capacity_eq, nextSeq_eq := second.nextSeq_eq }

theorem Alike.retain (alike : s.Alike t) (keep : Entry α → Bool) :
    (t.retain keep).2 = (s.retain keep).2 ∧ (s.retain keep).1.Alike (t.retain keep).1 := by
  obtain ⟨l, first, second⟩ := alike
  obtain ⟨left, count⟩ := first.toHolds.retain keep
  obtain ⟨right, other⟩ := second.toHolds.retain keep
  refine ⟨other.trans count.symm, { l with items := l.items.filter fun item => keep item.2 },
    ?_, ?_⟩
  · exact { left with capacity_eq := first.capacity_eq, nextSeq_eq := first.nextSeq_eq }
  · exact { right with capacity_eq := second.capacity_eq, nextSeq_eq := second.nextSeq_eq }

variable [Scalar α]

/-- An insertion finds room in both stores or in neither. -/
theorem Alike.insert (alike : s.Alike t) (entry : Entry α) {key : Key}
    (absent : s.get? key = none) :
    (s.insert? key entry = none ∧ t.insert? key entry = none) ∨
      ∃ left right, s.insert? key entry = some left ∧ t.insert? key entry = some right ∧
        left.Alike right := by
  have size := alike.size_eq
  have capacity := alike.capacity_eq
  obtain ⟨l, first, second⟩ := alike
  have alsoAbsent : t.get? key = none := by
    rw [second.toHolds.get?_eq, ← first.toHolds.get?_eq, absent]
  by_cases room : s.size < s.capacity
  · obtain ⟨left, stored, _⟩ := first.toHolds.insert entry absent room
    obtain ⟨right, alsoStored, _⟩ := second.toHolds.insert entry alsoAbsent (by omega)
    have firstLeft := (first.insert entry absent).2
    have secondLeft := (second.insert entry alsoAbsent).2
    simp only [Store.answer, stored] at firstLeft
    simp only [Store.answer, alsoStored] at secondLeft
    exact Or.inr ⟨left, right, stored, alsoStored, _, firstLeft, secondLeft⟩
  · refine Or.inl ⟨?_, ?_⟩
    · simp only [insert?, room, if_false]
    · simp only [insert?, size, capacity, room, if_false]

end Store

variable [Scalar α] {e : Engine α} {now : Nat}

theorem Ledger.evictLowest_subset (l : Ledger α) (score : Entry α → α) :
    (l.answer (.evictLowest score)).2.items ⊆ l.items := by
  simp only [Ledger.answer]
  cases earliestLowest? score l.items with
  | none => exact List.Subset.refl _
  | some item => exact List.filter_subset_self _

/-- Where entries are evicted by score, no score of a stored entry is NaN. -/
def Engine.ScoresNumbers (e : Engine α) (now : Nat) (s : Store α) : Prop :=
  EvictionPolicy.ofProfile e.profile = .priority → ∀ item ∈ s.toList,
    Scalar.IsNumber (item.2.retention e.profile (e.ownerScore? item.2) now)

namespace Store

variable [OrderedScalar α]

theorem Alike.evictOne (alike : s.Alike t) (numbers : e.ScoresNumbers now s) :
    (e.evictOne now t).victim = (e.evictOne now s).victim ∧
      (e.evictOne now s).left.Alike (e.evictOne now t).left ∧
      e.ScoresNumbers now (e.evictOne now s).left := by
  obtain ⟨l, first, second⟩ := alike
  unfold Engine.evictOne
  cases policy : EvictionPolicy.ofProfile e.profile with
  | fifo =>
    obtain ⟨victim, left⟩ := first.evictOldest
    obtain ⟨other, right⟩ := second.evictOldest
    refine ⟨StoreAnswer.evicted.inj (other.trans victim.symm), ⟨_, left, right⟩, ?_⟩
    intro byScore
    rw [policy] at byScore
    cases byScore
  | priority =>
    let score := fun entry : Entry α => entry.retention e.profile (e.ownerScore? entry) now
    obtain ⟨victim, left⟩ := first.evictLowest score (numbers policy)
    obtain ⟨other, right⟩ := second.evictLowest score fun item member =>
      numbers policy item (first.perm.mem_iff.2 (second.perm.mem_iff.1 member))
    refine ⟨StoreAnswer.evicted.inj (other.trans victim.symm), ⟨_, left, right⟩, ?_⟩
    intro _ item member
    have stored := l.evictLowest_subset score (left.perm.mem_iff.1 member)
    exact numbers policy item (first.perm.mem_iff.2 stored)

theorem Alike.evictMany (alike : s.Alike t) (numbers : e.ScoresNumbers now s) (count : Nat) :
    (e.evictMany now count t).2 = (e.evictMany now count s).2 ∧
      (e.evictMany now count s).1.Alike (e.evictMany now count t).1 := by
  induction count generalizing s t with
  | zero => exact ⟨rfl, alike⟩
  | succ count ih =>
    obtain ⟨victim, left, numbersLeft⟩ := alike.evictOne numbers
    obtain ⟨evicted, last⟩ := ih left numbersLeft
    simp only [Engine.evictMany, victim]
    cases (e.evictOne now s).victim with
    | none => exact ⟨rfl, left⟩
    | some entry => exact ⟨congrArg (entry :: ·) evicted, last⟩

theorem Alike.shrink (alike : s.Alike t) (numbers : e.ScoresNumbers now s) :
    (e.shrink now t).2 = (e.shrink now s).2 ∧ (e.shrink now s).1.Alike (e.shrink now t).1 := by
  unfold Engine.shrink
  rw [alike.size_eq, alike.capacity_eq]
  exact alike.evictMany numbers _

end Store

/-- Two admissions with the same outcome that evicted the same entries and left stores alike. -/
structure Admission.Alike (a b : Admission α) : Prop where
  outcome : b.outcome = a.outcome
  evicted : b.evicted = a.evicted
  store : a.store.Alike b.store

/-- Every insertion that is tried goes the same way in both stores. -/
theorem Store.Alike.track [OrderedScalar α] (alike : s.Alike t) (numbers : e.ScoresNumbers now s)
    (seen : Sighting α) (attempts : Nat) :
    (e.track now seen attempts s).Alike (e.track now seen attempts t) := by
  induction attempts generalizing s t with
  | zero => exact ⟨rfl, rfl, alike⟩
  | succ attempts ih =>
    unfold Engine.track
    rw [alike.get?_eq]
    cases found : s.get? seen.key with
    | some entry =>
      dsimp only
      split
      · exact ⟨rfl, rfl, alike.modify _ Engine.sightAgain_seq⟩
      · exact ⟨rfl, rfl, alike.modify _ fun _ => rfl⟩
    | none =>
      rcases alike.insert (seen.entry now) found with
        ⟨full, alsoFull⟩ | ⟨left, right, stored, also, same⟩
      · obtain ⟨victim, left, numbersLeft⟩ := alike.evictOne numbers
        have later := ih left numbersLeft
        simp only [full, alsoFull, victim]
        exact ⟨later.outcome, congrArg (_ ++ ·) later.evicted, later.store⟩
      · simp only [stored, also]
        exact ⟨rfl, rfl, same⟩

end GossipGate
