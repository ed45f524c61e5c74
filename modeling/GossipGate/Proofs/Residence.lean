import GossipGate.Proofs.Tracking

namespace GossipGate

variable {α : Type} {s : Store α} {items : List (Key × Entry α)}

/-- No entry is stored under two keys. -/
theorem Store.Holds.key_unique (holds : s.Holds items) {first second : Key} {entry : Entry α}
    (left : s.get? first = some entry) (right : s.get? second = some entry) : first = second := by
  have numbers : (items.map fun item => item.2.seq).Nodup :=
    List.pairwise_map.2 (holds.sorted.imp fun lower => Nat.ne_of_lt lower)
  exact congrArg Prod.fst (List.inj_on_of_nodup_map numbers ((holds.lookup first entry).1 left)
    ((holds.lookup second entry).1 right) rfl)

theorem Store.contains_iff {key : Key} :
    s.contains key = true ↔ ∃ entry, s.get? key = some entry :=
  Option.isSome_iff_exists

theorem Store.Holds.contains_eq {t : Store α} (left : s.Holds items) (right : t.Holds items)
    (key : Key) : t.contains key = s.contains key := by
  refine Bool.eq_iff_iff.2 ?_
  simp only [Store.contains_iff, left.lookup, right.lookup]


namespace Store

theorem Holds.contains_modify (holds : s.Holds items) (key other : Key) {f : Entry α → Entry α}
    (seq_eq : ∀ entry, (f entry).seq = entry.seq) :
    (s.modify key f).contains other = s.contains other := by
  unfold contains
  rw [holds.get?_modify key other seq_eq]
  split
  · rename_i same
    rw [same, Option.isSome_map]
  · rfl

theorem Holds.contains_insert (holds : s.Holds items) {key : Key} {entry : Entry α}
    (absent : s.get? key = none) {stored : Store α}
    (inserted : s.insert? key entry = some stored) (other : Key) :
    stored.contains other = true ↔ other = key ∨ s.contains other = true := by
  unfold contains
  rw [holds.get?_insert absent inserted]
  split <;> simp_all

end Store

/-- An eviction takes the entry under one key and no other. -/
theorem Eviction.Takes.contains_iff {eviction : Eviction α} {item : Key × Entry α}
    (takes : eviction.Takes s items item) (holds : s.Holds items) (key : Key) :
    eviction.left.contains key = true ↔ s.contains key = true ∧ s.get? key ≠ some item.2 := by
  have own : s.get? item.1 = some item.2 := (holds.lookup _ _).2 takes.member
  have other : key ≠ item.1 ↔ s.get? key ≠ some item.2 :=
    not_congr ⟨fun same => same ▸ own, fun found => holds.key_unique found own⟩
  simp only [Store.contains_iff, takes.left.lookup, List.mem_filter, decide_eq_true_eq,
    ← holds.lookup, other, exists_and_right]

variable [Scalar α] {e : Engine α} {now : Nat} {seen : Sighting α}

/-- After an admission its own key is stored, and so are the others but for the evicted one. -/
theorem Admits.contains_iff {admission : Admission α} (admits : Admits e now seen s items admission)
    (holds : s.Holds items) (key : Key) : admission.store.contains key = true ↔
      key = seen.key ∨ s.contains key = true ∧
        ¬∃ entry ∈ admission.evicted, s.get? key = some entry := by
  cases admits with
  | duplicate found _ =>
    have present : s.contains seen.key = true := Store.contains_iff.2 ⟨_, found⟩
    simp only [holds.contains_modify _ _ Engine.sightAgain_seq, List.not_mem_nil, false_and,
      exists_false, not_false_eq_true, and_true, iff_or_self]
    rintro rfl
    exact present
  | @refreshed entry found _ =>
    have present : s.contains seen.key = true := Store.contains_iff.2 ⟨_, found⟩
    simp only [holds.contains_modify seen.key key
      (f := fun old => old.restart now seen.confidence) fun _ => rfl, List.not_mem_nil, false_and,
      exists_false, not_false_eq_true, and_true, iff_or_self]
    rintro rfl
    exact present
  | inserted absent stored =>
    simp only [holds.contains_insert absent stored, List.not_mem_nil, false_and, exists_false,
      not_false_eq_true, and_true]
  | replaced absent _ takes stored =>
    have gone := takes.left.absent_iff.2 fun other member =>
      holds.absent_iff.1 absent other (List.mem_of_mem_filter member)
    simp only [takes.left.contains_insert gone stored, takes.contains_iff holds, List.mem_singleton,
      exists_eq_left, ne_eq]

/-- A call takes the entry under a key out of the store: it is evicted, or a cleanup removes it. -/
def Step.Drops (step : Step α) (key : Key) : Prop :=
  (∃ entry ∈ step.evicted, step.before.store.get? key = some entry) ∨
    step.call = .cleanup ∧ step.before.store.contains key = true ∧
      step.reply.engine.store.contains key = false

/-- Some call asked for a key, and no call since the latest one dropped the entry under it. -/
def KeptSince (key : Key) : List (Step α) → Prop
  | [] => False
  | step :: past => step.asked? = some key ∨ ¬step.Drops key ∧ KeptSince key past

namespace Engine

/-- A message leaves an entry under the key that it asked for and under those that were there
before, but for the one that it evicted. -/
theorem Receives.contains_iff {reply : Reply α Bool} {m : Message}
    (receives : e.Receives now m reply) (holds : e.store.Holds items)
    (usable : 0 < e.store.capacity) (fits : e.store.size ≤ e.store.capacity) (key : Key) :
    reply.engine.store.contains key = true ↔ e.asked? m = some key ∨
      e.store.contains key = true ∧
        ¬∃ entry ∈ ((e.admission? now m).map Admission.evicted).getD [],
          e.store.get? key = some entry := by
  cases asks : e.asked? m with
  | none =>
    obtain ⟨same, _, unadmitted⟩ := receives.unasked asks
    simp [same, unadmitted]
  | some own =>
    obtain ⟨a, arrived, admitted, same, _⟩ := receives.asked asks
    have own_eq : own = (a.engine.sighting a m).key :=
      (asked?_eq_some asks).2.trans (arrive_follows arrived).key.symm
    have left := (lookUp_admits holds usable fits arrived).contains_iff holds key
    rw [admitted, same, Option.map_some, Option.getD_some, Option.some.injEq, eq_comm (a := own),
      own_eq]
    exact left

/-- A cleanup stores nothing. -/
theorem contains_of_cleanup (holds : e.store.Holds items) {key : Key}
    (stays : (e.cleanup now).engine.store.contains key = true) :
    e.store.contains key = true := by
  have kept := (holds.retain (e.isKept now)).1
  obtain ⟨entry, found⟩ := Store.contains_iff.1 stays
  exact Store.contains_iff.2
    ⟨entry, holds.get?_of_subset kept List.filter_sublist.subset found⟩

/-- A call leaves an entry under the key that it asked for and under those that were there before,
but for what it drops. -/
theorem perform_contains (holds : e.store.Holds items) (usable : 0 < e.store.capacity)
    (fits : e.store.size ≤ e.store.capacity) {call : Call}
    (other : ∀ requested, call ≠ .setTier requested) {reply : Reply α Answer}
    (performed : e.perform now call = .ok reply) (key : Key) :
    reply.engine.store.contains key = true ↔
      (Step.mk e now call reply).asked? = some key ∨ e.store.contains key = true ∧
        ¬(Step.mk e now call reply).Drops key := by
  cases call with
  | message m =>
    obtain ⟨answer, answered, rfl⟩ := perform_message performed
    have left := (receive_receives answered).contains_iff holds usable fits key
    unfold Step.Drops
    simp only [reduceCtorEq, false_and, or_false]
    exact left
  | cleanup =>
    obtain rfl := Except.ok.inj performed
    show (e.cleanup now).engine.store.contains key = true ↔ none = some key ∨
      e.store.contains key = true ∧
        ¬((∃ entry ∈ ([] : List (Entry α)), e.store.get? key = some entry) ∨
          Call.cleanup = .cleanup ∧ e.store.contains key = true ∧
            (e.cleanup now).engine.store.contains key = false)
    cases stays : (e.cleanup now).engine.store.contains key with
    | true => simp [contains_of_cleanup holds stays]
    | false => simp
  | setTier requested => exact absurd rfl (other requested)
  | activity peer =>
    obtain rfl := Except.ok.inj performed
    have same : (e.trackPeer peer now).store = e.store := meet_store peer
    simp [Step.Drops, Step.asked?, Step.evicted, Step.admission?, same]
  | close =>
    obtain rfl := Except.ok.inj performed
    have same : e.close.engine.store = e.store := rfl
    simp [Step.Drops, Step.asked?, Step.evicted, Step.admission?, Reply.map, same]

end Engine

/-- While the tier stays, what is stored is what was asked for and not dropped since. -/
theorem Run.contains_iff {c : Config α} {opened : Nat} {past : List (Step α)}
    (run : Run c opened past e)
    (untiered : ∀ step ∈ past, ∀ requested, step.call ≠ .setTier requested) (key : Key) :
    e.store.contains key = true ↔ KeptSince key past := by
  induction run with
  | start started =>
    obtain ⟨ordered, rfl⟩ := Engine.start_assemble started
    have empty : (Store.empty (α := α) c.effectiveShards c.effectiveCapacity
      Key.fingerprint).Holds [] := Store.holds_empty _ _ _
    have absent : ¬∃ entry, (Store.empty (α := α) c.effectiveShards c.effectiveCapacity
        Key.fingerprint).get? key = some entry := by
      rintro ⟨entry, found⟩
      cases (empty.lookup key entry).1 found
    exact iff_of_false (fun stored => absent (Store.contains_iff.1 stored)) id
  | @call past e gate now call reply before reordered performed ih =>
    obtain ⟨own, others⟩ := List.forall_mem_cons.1 untiered
    obtain ⟨items, held, holds, usable, fits⟩ := before.ready reordered
    rw [Engine.perform_contains holds usable fits own performed, held.contains_eq holds,
      ih others, and_comm]
    exact Iff.rfl

end GossipGate
