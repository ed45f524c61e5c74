import GossipGate.Proofs.FreshMessages
import GossipGate.Proofs.Ranges

namespace GossipGate

variable {α : Type} [Scalar α] {s : Store α} {items : List (Key × Entry α)} {e : Engine α}
  {now : Nat}

/-! ### The loop that brings a store down to its capacity -/

/-- Evicting for as long as the store is over its capacity. A failed eviction ends the loop only
where nothing is left. -/
inductive Engine.Enforces (e : Engine α) (now : Nat) : Store α → Store α × List (Entry α) → Prop
  | fits {s : Store α} : s.isOver = false → Enforces e now s (s, [])
  | exhausted {s : Store α} : s.isOver = true → (e.evictOne now s).victim = none →
      (e.evictOne now s).left.isEmpty = true → Enforces e now s ((e.evictOne now s).left, [])
  | again {s : Store α} {last : Store α × List (Entry α)} : s.isOver = true →
      ¬((e.evictOne now s).victim = none ∧ (e.evictOne now s).left.isEmpty = true) →
      Enforces e now (e.evictOne now s).left last →
      Enforces e now s (last.1, (e.evictOne now s).victim.toList ++ last.2)

theorem Engine.Enforces.unique {first second : Store α × List (Entry α)}
    (left : e.Enforces now s first) (right : e.Enforces now s second) : first = second := by
  induction left generalizing second with
  | fits within =>
    cases right with
    | fits => rfl
    | exhausted crowded _ _ | again crowded _ _ =>
      rw [within] at crowded
      cases crowded
  | exhausted crowded stuck empty =>
    cases right with
    | fits within =>
      rw [within] at crowded
      cases crowded
    | exhausted => rfl
    | again _ more _ => exact absurd ⟨stuck, empty⟩ more
  | again crowded more _ ih =>
    cases right with
    | fits within =>
      rw [within] at crowded
      cases crowded
    | exhausted _ stuck empty => exact absurd ⟨stuck, empty⟩ more
    | again _ _ later => rw [ih later]

namespace Store

/-- The loop ends, and evicts as many entries as the store has too many. -/
theorem Holds.enforces (holds : s.Holds items) (e : Engine α) (now : Nat) :
    e.Enforces now s (e.shrink now s) := by
  -- Every eviction takes one entry of the excess, and none fails before that is gone.
  generalize excess : s.size - s.capacity = count
  induction count generalizing s items with
  | zero =>
    unfold Engine.shrink
    rw [excess]
    refine .fits (decide_eq_false ?_)
    omega
  | succ count ih =>
    have size := holds.size_eq
    have occupied : items ≠ [] := by
      rintro rfl
      simp at size
      omega
    obtain ⟨item, takes⟩ := holds.evictOne_takes e now occupied
    have fewer := holds.length_without takes.member
    have left : (e.evictOne now s).left.size - (e.evictOne now s).left.capacity = count := by
      rw [takes.left.size_eq, takes.capacity]
      omega
    have crowded : s.isOver = true := decide_eq_true (by omega)
    have more : ¬((e.evictOne now s).victim = none ∧
        (e.evictOne now s).left.isEmpty = true) := by
      rw [takes.victim]
      simp
    have later := ih takes.left left
    unfold Engine.shrink at later ⊢
    rw [left] at later
    rw [excess]
    have evicts := Engine.Enforces.again crowded more later
    simp only [takes.victim, Option.toList_some, List.singleton_append] at evicts
    simp only [Engine.evictMany, takes.victim]
    exact evicts

/-- The loop has one result, that of evicting a number of entries. -/
theorem Holds.enforces_iff (holds : s.Holds items) {result : Store α × List (Entry α)} :
    e.Enforces now s result ↔ result = e.shrink now s := by
  constructor
  · intro enforces
    exact enforces.unique (holds.enforces e now)
  · rintro rfl
    exact holds.enforces e now

end Store

/-! ### The order in which entries go -/

namespace Engine

/-- What an entry is worth to a gate. -/
def worth (e : Engine α) (now : Nat) (entry : Entry α) : α :=
  entry.retention e.profile (e.ownerScore? entry) now

/-- Whether one entry is evicted before another. -/
def GoesFirst (e : Engine α) (now : Nat) (a b : Entry α) : Prop :=
  match EvictionPolicy.ofProfile e.profile with
  | .fifo => a.seq < b.seq
  | .priority => e.worth now a < e.worth now b ∨
      (e.worth now a == e.worth now b) = true ∧ a.seq < b.seq

/-- Where entries go by their worth, that is a number for all of them. -/
def Values (e : Engine α) (now : Nat) (items : List (Key × Entry α)) : Prop :=
  EvictionPolicy.ofProfile e.profile = .priority →
    ∀ item ∈ items, ∃ v, Scalar.value? (e.worth now item.2) = some v

end Engine

variable [RoundedScalar α]

namespace Store

/-- The place of a scored entry by the value of its score, then its number. -/
def scoredPlace (item : Key × Entry α × α) : Rat ×ₗ Nat :=
  toLex ((Scalar.value? item.2.2).getD 0, item.2.1.seq)

theorem goesBefore_iff {a b : Key × Entry α × α} {p q : Rat}
    (left : Scalar.value? a.2.2 = some p) (right : Scalar.value? b.2.2 = some q) :
    goesBefore a b = true ↔ scoredPlace a < scoredPlace b := by
  simp only [goesBefore, scoredPlace, Prod.Lex.toLex_lt_toLex, left, right, Option.getD_some,
    Bool.or_eq_true, Bool.and_eq_true, decide_eq_true_eq, RoundedScalar.lt_iff left right,
    RoundedScalar.beq_iff left right]

/-- Among scores with values the entry that goes comes before all others. -/
theorem Holds.evictLowest_first (holds : s.Holds items) (score : Entry α → α)
    (valued : ∀ item ∈ items, ∃ v, Scalar.value? (score item.2) = some v) (occupied : items ≠ []) :
    ∃ item, (s.evictLowest score).Takes s items item ∧ ∀ other ∈ items, other ≠ item →
      goesBefore (item.1, item.2, score item.2) (other.1, other.2, score other.2) = true := by
  cases picked : s.lowest? score with
  | none => exact absurd ((holds.lowest?_eq_none_iff score).1 picked) occupied
  | some found =>
    have takes := holds.evictLowest_mem picked
    obtain ⟨⟨key, entry⟩, stored, rfl⟩ := List.mem_map.1 (leading?_mem picked)
    refine ⟨(key, entry), takes, fun other member different => ?_⟩
    have candidates : ∀ candidate ∈ s.toList.map fun item => (item.1, item.2, score item.2),
        ∃ v, Scalar.value? candidate.2.2 = some v := by
      intro candidate among
      obtain ⟨item, inStore, rfl⟩ := List.mem_map.1 among
      exact valued item (holds.perm.mem_iff.1 inStore)
    have least := leading?_least scoredPlace (fun a left b right => by
      obtain ⟨p, ownLeft⟩ := candidates a left
      obtain ⟨q, ownRight⟩ := candidates b right
      exact goesBefore_iff ownLeft ownRight) picked
    have candidate : (other.1, other.2, score other.2) ∈
        s.toList.map fun item => (item.1, item.2, score item.2) :=
      List.mem_map.2 ⟨other, holds.perm.mem_iff.2 member, rfl⟩
    obtain ⟨p, own⟩ := valued (key, entry) takes.member
    obtain ⟨q, others⟩ := valued other member
    refine (goesBefore_iff own others).2 (lt_of_le_of_ne (least _ candidate) fun same => ?_)
    have number : entry.seq = other.2.seq := congrArg (fun place => (ofLex place).2) same
    exact different (eq_of_strictly_growing holds.sorted member takes.member number.symm)

/-- An eviction takes the entry that goes before all others. -/
theorem Holds.evictOne_first (holds : s.Holds items) (valued : e.Values now items)
    (occupied : items ≠ []) : ∃ item, (e.evictOne now s).Takes s items item ∧
      ∀ other ∈ items, other ≠ item → e.GoesFirst now item.2 other.2 := by
  unfold Engine.evictOne Engine.GoesFirst
  cases policy : EvictionPolicy.ofProfile e.profile with
  | fifo =>
    cases items with
    | nil => exact absurd rfl occupied
    | cons item rest =>
      refine ⟨item, holds.evictOldest_cons, fun other member different => ?_⟩
      rcases List.mem_cons.1 member with same | later
      · exact absurd same different
      · exact (List.pairwise_cons.1 holds.sorted).1 other later
  | priority =>
    obtain ⟨item, takes, first⟩ := holds.evictLowest_first (e.worth now) (valued policy) occupied
    refine ⟨item, takes, fun other member different => ?_⟩
    have before := first other member different
    simpa only [goesBefore, Bool.or_eq_true, Bool.and_eq_true, decide_eq_true_eq] using before

/-- Every entry that is evicted goes before every entry that stays. -/
theorem Holds.evictMany_order (holds : s.Holds items) (valued : e.Values now items) {count : Nat}
    (enough : count ≤ items.length) {key other : Key} {kept gone : Entry α}
    (stays : (e.evictMany now count s).1.get? key = some kept) (stored : s.get? other = some gone)
    (goes : (e.evictMany now count s).1.get? other = none) : e.GoesFirst now gone kept := by
  induction count generalizing s items with
  | zero =>
    rw [Engine.evictMany, stored] at goes
    cases goes
  | succ count ih =>
    have occupied : items ≠ [] := by
      rintro rfl
      simp at enough
    obtain ⟨item, takes, first⟩ := holds.evictOne_first valued occupied
    have fewer := holds.length_without takes.member
    obtain ⟨left, leftHolds, sublist, _⟩ :=
      takes.left.evictMany_leaves e now (show count ≤ _ by omega)
    simp only [Engine.evictMany, takes.victim] at stays goes
    have member := (holds.lookup other gone).1 stored
    -- The entry goes now, and then before all that are left, or with a later eviction.
    by_cases own : other = item.1
    · have staying := List.mem_filter.1 (sublist.subset ((leftHolds.lookup key kept).1 stays))
      have victim : gone = item.2 := by
        have again := (holds.lookup item.1 item.2).2 takes.member
        rw [← own, stored] at again
        exact Option.some.inj again
      rw [victim]
      refine first (key, kept) staying.1 fun same => ?_
      have different := of_decide_eq_true staying.2
      exact different (congrArg Prod.fst same)
    · have remains : (other, gone) ∈ items.filter fun other => other.1 ≠ item.1 :=
        List.mem_filter.2 ⟨member, decide_eq_true own⟩
      have others : e.Values now (items.filter fun other => other.1 ≠ item.1) :=
        fun ranked item among => valued ranked item (List.mem_of_mem_filter among)
      exact ih takes.left others (by omega) stays ((takes.left.lookup other gone).2 remains) goes

end Store

namespace Engine

variable {count : Nat} {entry : Entry α}

omit [RoundedScalar α] in
/-- Outside ENTERPRISE the older insertion goes first. -/
theorem goesFirst_iff_seq {a b : Entry α} (unqueued : e.profile.priorityQueuing = false) :
    e.GoesFirst now a b ↔ a.seq < b.seq := by
  unfold GoesFirst EvictionPolicy.ofProfile
  rw [unqueued]
  rfl

omit [RoundedScalar α] in
theorem goesFirst_iff_worth {a b : Entry α} (queued : e.profile.priorityQueuing = true) :
    e.GoesFirst now a b ↔ e.worth now a < e.worth now b ∨
      (e.worth now a == e.worth now b) = true ∧ a.seq < b.seq := by
  unfold GoesFirst EvictionPolicy.ofProfile
  rw [queued]
  rfl

omit [RoundedScalar α] in
theorem worth_withStore (store : Store α) :
    (e.withStore store).worth now entry = e.worth now entry := rfl

/-- The worth of an entry is a number. -/
theorem Ranged.worth (ranged : e.Ranged count) (reading : now < UInt64.size)
    (own : entry.Ranged count) : ∃ v, Scalar.value? (e.worth now entry) = some v := by
  obtain ⟨q, lower, positive, _⟩ := Scalar.value?_tenth (α := α)
  have confidence := (own.confidence.unit lower positive).within
  obtain ⟨v, value, _⟩ := Entry.within_retention confidence own.priority.2 e.profile
    (ranged.ownerScore entry) reading
  exact ⟨v, value⟩

/-- What a change of tier makes of a gate. The features and the capacity become those of the tier,
and of the entries those stay that go last. -/
structure Retiers (gate : Engine α) (now : Nat) (tier : Tier) (last : Engine α) : Prop where
  rest : last = { gate with profile := .ofTier tier, store := last.store }
  capacity : last.store.capacity = tier.capacity
  loop : ∃ evicted, ∀ result, ({ gate with profile := .ofTier tier } : Engine α).Enforces now
    (gate.store.setCapacity tier.capacity) result ↔ result = (last.store, evicted)
  size : last.store.size = min gate.store.size tier.capacity
  counted : last.store.counted = last.store.size
  unchanged : ∀ key entry, last.store.get? key = some entry → gate.store.get? key = some entry
  greatest : ∀ key kept other gone, last.store.get? key = some kept →
    gate.store.get? other = some gone → last.store.get? other = none →
    (tier ≠ .enterprise → gone.seq < kept.seq) ∧
    (tier = .enterprise → last.worth now gone < last.worth now kept ∨
      (last.worth now gone == last.worth now kept) = true ∧ gone.seq < kept.seq)

theorem retiers_of_values (holds : e.store.Holds items) (tier : Tier)
    (valued : ({ e with profile := .ofTier tier } : Engine α).Values now items) :
    e.Retiers now tier
      (Engine.withStore { e with profile := .ofTier tier } (e.shrunk now tier).1) := by
  let changed : Engine α := { e with profile := .ofTier tier }
  have cut := holds.setCapacity tier.capacity
  have size := holds.size_eq
  have enough : e.store.size - tier.capacity ≤ items.length := by omega
  obtain ⟨left, leftHolds, sublist, length, _, capacity⟩ := cut.evictMany_leaves changed now enough
  refine ⟨rfl, capacity, ⟨_, fun result => cut.enforces_iff⟩, ?_, leftHolds.counted_eq, ?_, ?_⟩
  · have leftSize := leftHolds.size_eq
    show (changed.evictMany now (e.store.size - tier.capacity) _).1.size = _
    omega
  · intro key entry found
    exact holds.get?_of_subset leftHolds sublist.subset found
  · intro key kept other gone stays stored goes
    have first : changed.GoesFirst now gone kept :=
      cut.evictMany_order valued enough stays stored goes
    constructor
    · intro other
      have unqueued : changed.profile.priorityQueuing = false := decide_eq_false other
      exact (goesFirst_iff_seq unqueued).1 first
    · intro same
      have queued : changed.profile.priorityQueuing = true := decide_eq_true same
      rw [worth_withStore, worth_withStore]
      exact (goesFirst_iff_worth queued).1 first

end Engine

omit [RoundedScalar α] in
/-- What goes under a new tier goes before all that stays. -/
theorem Engine.Retiers.goesFirst {last : Engine α} {tier : Tier} (retiers : e.Retiers now tier last)
    {key other : Key} {kept gone : Entry α} (stays : last.store.get? key = some kept)
    (stored : e.store.get? other = some gone) (goes : last.store.get? other = none) :
    last.GoesFirst now gone kept := by
  have profile : last.profile = .ofTier tier := congrArg Engine.profile retiers.rest
  obtain ⟨older, lower⟩ := retiers.greatest key kept other gone stays stored goes
  by_cases enterprise : tier = .enterprise
  · have queued : last.profile.priorityQueuing = true := by
      rw [profile]
      exact decide_eq_true enterprise
    exact (Engine.goesFirst_iff_worth queued).2 (lower enterprise)
  · have unqueued : last.profile.priorityQueuing = false := by
      rw [profile]
      exact decide_eq_false enterprise
    exact (Engine.goesFirst_iff_seq unqueued).2 (older enterprise)

omit [RoundedScalar α] in
/-- Of one entry more than fit, the one goes that no other goes before, and all others stay. -/
theorem Engine.Retiers.one_goes {last : Engine α} {tier : Tier} {left : List (Key × Entry α)}
    (retiers : e.Retiers now tier last) (holds : e.store.Holds items)
    (held : last.store.Holds left) (crowded : items.length = tier.capacity + 1)
    {item : Key × Entry α} (member : item ∈ items)
    (first : ∀ other ∈ items, other ≠ item → ¬last.GoesFirst now other.2 item.2) :
    last.store.get? item.1 = none ∧
      ∀ other ∈ items, other ≠ item → last.store.get? other.1 = some other.2 := by
  have subset : left ⊆ items := fun other among =>
    (holds.lookup other.1 other.2).1
      (retiers.unchanged other.1 other.2 ((held.lookup other.1 other.2).2 among))
  have length : left.length + 1 = items.length := by
    have size := retiers.size
    rw [held.size_eq, holds.size_eq] at size
    omega
  -- What stays is all but one of what was stored.
  have distinct : left.Nodup := held.distinct_keys.of_map _
  obtain ⟨gone, more⟩ := (List.subperm_of_subset distinct subset).exists_of_length_lt (by omega)
  have all : (gone :: left).Perm items :=
    more.perm_of_length_le (by rw [List.length_cons]; omega)
  have stored : gone ∈ items := all.subset List.mem_cons_self
  have goes : last.store.get? gone.1 = none := by
    have keys := ((all.map Prod.fst).nodup_iff).2 holds.distinct_keys
    rw [List.map_cons, List.nodup_cons] at keys
    exact held.absent_iff.2 fun other among same =>
      keys.1 (same ▸ List.mem_map_of_mem among)
  have stays : ∀ other ∈ items, other ≠ gone → last.store.get? other.1 = some other.2 := by
    intro other among different
    have kept := (List.mem_cons.1 (all.symm.subset among)).resolve_left different
    exact (held.lookup other.1 other.2).2 kept
  by_cases own : gone = item
  · exact own ▸ ⟨goes, stays⟩
  · have before := retiers.goesFirst (stays item member (Ne.symm own))
      ((holds.lookup gone.1 gone.2).2 stored) goes
    exact absurd before (first gone stored own)

variable {c : Config α} {opened : Nat} {past : List (Step α)}

theorem Run.values (run : Run c opened past e) (clocks : ∀ step ∈ past, step.now < UInt64.size)
    (few : past.length < UInt64.size) (reading : now < UInt64.size) {tier : Tier}
    (decays : tier = .enterprise → Scalar.ExpDecays α) {gate : Engine α}
    (reordered : e.Reordered gate) (holds : gate.store.Holds items) :
    ({ gate with profile := .ofTier tier } : Engine α).Values now items := by
  intro ranked item member
  have enterprise : tier = .enterprise := by
    cases tier with
    | free | business => cases ranked
    | enterprise => rfl
  have ranged := (run.ranged (decays enterprise) clocks few).reordered reordered
  let changed : Engine α := { gate with profile := .ofTier tier }
  have changedRanged : changed.Ranged mostChanges := ranged.congr rfl rfl rfl
  exact changedRanged.worth reading
    (ranged.entries item.1 item.2 ((holds.lookup item.1 item.2).2 member))

/-- A change of tier ends and keeps as many entries as fit, the ones that go last: by insertion, or
for ENTERPRISE by worth. Worth is a number as long as no count leaves its 64 bits and the
exponential of what is not positive lies between zero and one. -/
theorem Run.setTier_survivors (run : Run c opened past e)
    (clocks : ∀ step ∈ past, step.now < UInt64.size) (few : past.length < UInt64.size)
    {gate : Engine α} (reordered : e.Reordered gate) (reading : now < UInt64.size)
    (requested : String) (decays : Tier.serving requested = .enterprise → Scalar.ExpDecays α) :
    ∃ reply, gate.perform now (.setTier requested) = .ok reply ∧
      gate.Retiers now (.serving requested) reply.engine := by
  obtain ⟨items, _, holds, _⟩ := run.ready reordered
  have valued := run.values clocks few reading decays reordered holds
  refine ⟨_, rfl, ?_⟩
  show gate.Retiers now (.serving requested) (gate.setTier now requested).engine
  rw [Engine.setTier_eq]
  generalize served : Tier.serving requested = tier at valued ⊢
  have result : (gate.retiered requested (gate.shrunk now tier)).engine =
      Engine.withStore { gate with profile := .ofTier tier } (gate.shrunk now tier).1 := by
    unfold Engine.retiered
    rw [served]
    rfl
  rw [result]
  exact Engine.retiers_of_values holds tier valued

/-- Exact arithmetic with a function in place of the exponential that agrees with it at zero. -/
@[reducible] def decayingScalar : Scalar Rat := exactScalar fun q => 1 / (1 - q)

theorem expDecays_decaying : @Scalar.ExpDecays Rat decayingScalar := by
  rintro x _ ⟨⟩ nonpositive
  have above : 0 < 1 - x := by linarith
  refine ⟨1 / (1 - x), rfl, by positivity, ?_⟩
  rw [pow_zero, div_le_one above]
  linarith

theorem confidence_long {hash : String} (long : 32 ≤ hash.utf8ByteSize) :
    @Confidence.initial Rat decayingScalar hash "block" none 0 = 9 / 10 := by
  unfold Confidence.initial
  dsimp only
  rw [if_pos long]
  decide +kernel

/-- In exact arithmetic the message with number zero is worth more than the others. -/
theorem worth_numbered {gate last : Engine Rat} (profile : gate.profile = .ofTier .enterprise)
    (same : last.profile = .ofTier .enterprise) (i seq : Nat) :
    @Engine.worth Rat decayingScalar last 0
      (@Engine.firstEntry Rat decayingScalar gate 0 (numbered i) seq) =
        if i = 0 then 309 / 2 else 209 / 2 := by
  let _ := decayingScalar
  have confidence : (gate.firstEntry 0 (numbered i) seq).confidence = 9 / 10 := by
    show (if gate.profile.confidenceScoring then
      Confidence.initial (numbered i).hash "block" none 0 else (1.0 : Rat)) = 9 / 10
    rw [profile]
    exact (if_pos rfl).trans (confidence_long (hash_numbered_long i))
  have age : (gate.firstEntry 0 (numbered i) seq).ageHours 0 = 0 := by
    show (Scalar.ofNat (0 - 0) / 3600000.0 : Rat) = 0
    decide +kernel
  have unowned : last.ownerScore? (gate.firstEntry 0 (numbered i) seq) = none := by
    have nobody : (gate.firstEntry 0 (numbered i) seq).hasPeer = false := rfl
    rw [Engine.ownerScore?, nobody, Bool.and_false, if_neg Bool.false_ne_true]
  unfold Engine.worth Entry.retention
  rw [unowned, same, confidence, age]
  by_cases zero : i = 0
  · have priority : (gate.firstEntry 0 (numbered i) seq).priority = 15 := by
      subst zero
      show entryPriority gate.profile "block" none (some 15) = 15
      rw [profile]
      decide +kernel
    rw [priority, if_pos zero]
    decide +kernel
  · have priority : (gate.firstEntry 0 (numbered i) seq).priority = 10 := by
      have unasked : (numbered i).metadata.priority = none := if_neg zero
      show entryPriority gate.profile "block" none (numbered i).metadata.priority = 10
      rw [profile, unasked]
      decide +kernel
    rw [priority, if_neg zero]
    decide +kernel

omit [RoundedScalar α] in
/-- Of one numbered message more than fit, the one goes that no other goes before. -/
theorem Engine.Retiers.one_number_goes {last : Engine α} {tier : Tier} {count : Nat}
    {left : List (Key × Entry α)} (retiers : e.Retiers now tier last)
    (holds : e.store.Holds ((List.range count).map fun i =>
      (e.keyOf (numbered i), e.firstEntry 0 (numbered i) i)))
    (held : last.store.Holds left) (crowded : count = tier.capacity + 1) {k : Nat}
    (below : k < count) (first : ∀ i < count, i ≠ k →
      ¬last.GoesFirst now (e.firstEntry 0 (numbered i) i) (e.firstEntry 0 (numbered k) k)) :
    ∀ i < count, last.store.contains (e.keyOf (numbered i)) = decide (i ≠ k) := by
  obtain ⟨goes, stays⟩ := retiers.one_goes holds held
    (by rw [List.length_map, List.length_range]; exact crowded)
    (List.mem_map_of_mem (List.mem_range.2 below)) (by
      intro other member different
      obtain ⟨i, among, rfl⟩ := List.mem_map.1 member
      exact first i (List.mem_range.1 among) fun same => different (by rw [same]))
  intro i inside
  by_cases own : i = k
  · rw [own, Store.contains, goes]
    simp
  · have different : (e.firstEntry 0 (numbered i) i).seq ≠ (e.firstEntry 0 (numbered k) k).seq :=
      own
    have found := stays _ (List.mem_map_of_mem (List.mem_range.2 inside)) fun same =>
      different (congrArg (fun item => item.2.seq) same)
    rw [Store.contains, found]
    simp [own]

/-- Of 4097 messages in a BUSINESS gate FREE keeps all but the oldest. Of 32769 messages ENTERPRISE
keeps all but the second one: the oldest is worth more, the others as much. -/
theorem setTier_survivors_crowded :
    (∃ (past : List (Step Float)) (e : Engine Float) (reply : Reply Float Answer),
      Run (Config.ofTier .business) 0 past e ∧ (∀ step ∈ past, step.now < UInt64.size) ∧
        past.length = 4097 ∧ e.store.size = 4097 ∧ Tier.serving "FREE" = .free ∧
        e.perform 0 (.setTier "FREE") = .ok reply ∧ e.Retiers 0 .free reply.engine ∧
        reply.engine.store.size = 4096 ∧
        ∀ i < 4097, reply.engine.store.contains (e.keyOf (numbered i)) = decide (i ≠ 0)) ∧
    ∃ (past : List (Step Rat)) (e : Engine Rat) (reply : Reply Rat Answer),
      @Run Rat decayingScalar
          { @Config.ofTier Rat decayingScalar .enterprise with capacity := some 32769 } 0 past e ∧
        (∀ step ∈ past, step.now < UInt64.size) ∧ past.length = 32769 ∧ e.store.size = 32769 ∧
        Tier.serving "ENTERPRISE" = .enterprise ∧ @Scalar.ExpDecays Rat decayingScalar ∧
        @Engine.perform Rat decayingScalar e 0 (.setTier "ENTERPRISE") = .ok reply ∧
        @Engine.Retiers Rat decayingScalar e 0 .enterprise reply.engine ∧
        reply.engine.store.size = 32768 ∧
        ∀ i < 32769, reply.engine.store.contains (e.keyOf (numbered i)) = decide (i ≠ 1) := by
  constructor
  · have usable : (Config.ofTier .business : Config Float).problem? = none := by decide +kernel
    obtain ⟨past, e, run, clocks, length, profile, holds⟩ :=
      Run.of_numbered usable (by decide) (by decide : 4097 ≤ _)
    have known : Tier.serving "FREE" = .free := by decide +kernel
    obtain ⟨reply, performed, retiers⟩ := run.setTier_survivors clocks (by rw [length]; decide)
      (.refl e) (by decide : 0 < UInt64.size) "FREE" fun enterprise => by
        rw [known] at enterprise
        cases enterprise
    rw [known] at retiers
    obtain ⟨left, held, _⟩ := (run.call (.refl e) performed).ready (.refl reply.engine)
    have size : e.store.size = 4097 := by
      rw [holds.size_eq, List.length_map, List.length_range]
    have unqueued : reply.engine.profile.priorityQueuing = false := by
      rw [show reply.engine.profile = .ofTier .free from congrArg Engine.profile retiers.rest]
      rfl
    refine ⟨past, e, reply, run, clocks, length, size, known, performed, retiers, ?_, ?_⟩
    · rw [retiers.size, size]
      rfl
    · refine retiers.one_number_goes holds held rfl (by decide) fun i _ _ goesFirst => ?_
      exact Nat.not_lt_zero i ((Engine.goesFirst_iff_seq unqueued).1 goesFirst)
  · let _ := decayingScalar
    let _ := roundedScalar_exact fun q => 1 / (1 - q)
    have usable : ({ Config.ofTier .enterprise with capacity := some 32769 } :
        Config Rat).problem? = none := by decide +kernel
    obtain ⟨past, e, run, clocks, length, profile, holds⟩ :=
      Run.of_numbered usable (by decide) (by decide : 32769 ≤ _)
    have known : Tier.serving "ENTERPRISE" = .enterprise := by decide +kernel
    obtain ⟨reply, performed, retiers⟩ := run.setTier_survivors clocks (by rw [length]; decide)
      (.refl e) (by decide : 0 < UInt64.size) "ENTERPRISE" fun _ => expDecays_decaying
    rw [known] at retiers
    obtain ⟨left, held, _⟩ := (run.call (.refl e) performed).ready (.refl reply.engine)
    have size : e.store.size = 32769 := by
      rw [holds.size_eq, List.length_map, List.length_range]
    have served : reply.engine.profile = .ofTier .enterprise :=
      congrArg Engine.profile retiers.rest
    have queued : reply.engine.profile.priorityQueuing = true := by
      rw [served]
      rfl
    refine ⟨past, e, reply, run, clocks, length, size, known, expDecays_decaying, performed,
      retiers, ?_, ?_⟩
    · rw [retiers.size, size]
      rfl
    · refine retiers.one_number_goes holds held rfl (by decide) fun i _ other goesFirst => ?_
      have before := (Engine.goesFirst_iff_worth queued).1 goesFirst
      rw [worth_numbered profile served, worth_numbered profile served,
        if_neg Nat.one_ne_zero] at before
      by_cases zero : i = 0
      · rw [if_pos zero] at before
        rcases before with lower | ⟨equal, _⟩
        · exact absurd lower (by decide +kernel)
        · exact absurd equal (by decide +kernel)
      · rw [if_neg zero] at before
        rcases before with lower | ⟨_, older⟩
        · exact lt_irrefl _ lower
        · have number : i < 1 := older
          omega

end GossipGate
