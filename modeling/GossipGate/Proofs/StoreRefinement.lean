import GossipGate.Proofs.Eviction

namespace GossipGate

variable {α : Type} [Scalar α] {s : Store α} {l : Ledger α}

/-- What the callers of a store promise: only a new key is inserted, and no score is NaN. -/
def StoreCall.Allowed (s : Store α) : StoreCall α → Prop
  | .insert key _ => s.get? key = none
  | .evictLowest score => ∀ item ∈ s.toList, Scalar.IsNumber (score item.2)
  | _ => True

/-- A store in use: the calls so far with their answers, the latest first. Between calls the tables
of the shards may change their order. -/
inductive StoreReach (opened : Store α) : List (StoreCall α × StoreAnswer α) → Store α → Prop
  | start : StoreReach opened [] opened
  | reorder {past s t} : StoreReach opened past s → s.Reordered t → StoreReach opened past t
  | call {past s} (call : StoreCall α) : StoreReach opened past s → call.Allowed s →
      StoreReach opened ((call, (s.answer call).1) :: past) (s.answer call).2

namespace Ledger

/-- The ledger after the calls of a past. -/
def after (opened : Ledger α) : List (StoreCall α × StoreAnswer α) → Ledger α
  | [] => opened
  | (call, _) :: past => ((opened.after past).answer call).2

/-- Every answer of a past is the one that the ledger gives. -/
def Explains (opened : Ledger α) : List (StoreCall α × StoreAnswer α) → Prop
  | [] => True
  | (call, answer) :: past => answer = ((opened.after past).answer call).1 ∧ opened.Explains past

end Ledger

namespace Store

/-- The store holds what the ledger lists, at the same capacity and the same next number. -/
structure Matches (s : Store α) (l : Ledger α) : Prop extends s.Holds l.items where
  capacity_eq : s.capacity = l.capacity
  nextSeq_eq : s.nextSeq = l.nextSeq

omit [Scalar α] in
theorem matches_empty (shards capacity : Nat) (place : Key → Nat) :
    (empty shards capacity place : Store α).Matches (Ledger.empty capacity) :=
  { holds_empty shards capacity place with capacity_eq := rfl, nextSeq_eq := rfl }

omit [Scalar α] in
theorem Matches.reordered {t : Store α} (same : s.Matches l) (reordered : s.Reordered t) :
    t.Matches l := by
  refine { same.toHolds.reordered reordered with capacity_eq := ?_, nextSeq_eq := ?_ }
  · rw [reordered.capacity, same.capacity_eq]
  · rw [reordered.nextSeq, same.nextSeq_eq]

omit [Scalar α] in
theorem Holds.get?_eq {items : List (Key × Entry α)} (holds : s.Holds items) (key : Key) :
    s.get? key = items.lookup key := by
  apply Option.ext
  intro entry
  rw [holds.lookup]
  exact Table.mem_entries_iff (t := ⟨items, holds.distinct_keys⟩)

omit [Scalar α] in
theorem Holds.tail_eq {item : Key × Entry α} {rest : List (Key × Entry α)}
    (holds : s.Holds (item :: rest)) :
    ((item :: rest).filter fun other => other.1 ≠ item.1) = rest := by
  rw [List.filter_cons_of_neg (by simp)]
  refine List.filter_eq_self.2 fun other member => ?_
  have distinct := holds.distinct_keys
  rw [List.map_cons, List.nodup_cons] at distinct
  simp only [decide_eq_true_eq]
  intro same
  exact distinct.1 (same ▸ List.mem_map_of_mem member)

omit [Scalar α] in
/-- The store that an eviction left matches the ledger without the pair that went. -/
theorem Matches.taken {eviction : Eviction α} {item : Key × Entry α} (same : s.Matches l)
    (takes : eviction.Takes s l.items item) : eviction.left.Matches (l.drop item) := by
  refine { takes.left with capacity_eq := ?_, nextSeq_eq := ?_ }
  · rw [takes.capacity, same.capacity_eq]
    rfl
  · rw [takes.nextSeq, same.nextSeq_eq]
    rfl

theorem Matches.insert (same : s.Matches l) (entry : Entry α) {key : Key}
    (absent : s.get? key = none) :
    (s.answer (.insert key entry)).1 = (l.answer (.insert key entry)).1 ∧
      (s.answer (.insert key entry)).2.Matches (l.answer (.insert key entry)).2 := by
  have room_iff : s.size < s.capacity ↔ l.items.length < l.capacity := by
    rw [same.size_eq, same.capacity_eq]
  simp only [Store.answer, Ledger.answer]
  by_cases room : s.size < s.capacity
  · obtain ⟨stored, inserted, holds, capacity, nextSeq⟩ :=
      same.toHolds.insert entry absent room
    rw [inserted, if_pos (room_iff.1 room), ← same.nextSeq_eq]
    refine ⟨rfl, { holds with capacity_eq := ?_, nextSeq_eq := nextSeq }⟩
    rw [capacity, same.capacity_eq]
  · have refused : s.insert? key entry = none := by simp only [insert?, room, if_false]
    rw [refused, if_neg (room_iff.not.1 room)]
    exact ⟨rfl, same⟩

theorem Matches.evictOldest (same : s.Matches l) :
    (s.answer .evictOldest).1 = (l.answer .evictOldest).1 ∧
      (s.answer .evictOldest).2.Matches (l.answer .evictOldest).2 := by
  obtain ⟨items, capacity, nextSeq⟩ := l
  cases items with
  | nil =>
    simp only [Store.answer, Ledger.answer, same.toHolds.evictOldest_nil]
    exact ⟨rfl, same⟩
  | cons item rest =>
    have takes := same.toHolds.evictOldest_cons
    have left := same.taken takes
    rw [Ledger.drop, same.toHolds.tail_eq] at left
    simp only [Store.answer, Ledger.answer, takes.victim]
    exact ⟨rfl, left⟩

theorem Matches.evictLowest [OrderedScalar α] (same : s.Matches l) (score : Entry α → α)
    (numbers : ∀ item ∈ s.toList, Scalar.IsNumber (score item.2)) :
    (s.answer (.evictLowest score)).1 = (l.answer (.evictLowest score)).1 ∧
      (s.answer (.evictLowest score)).2.Matches (l.answer (.evictLowest score)).2 := by
  have evicted := same.toHolds.evictLowest score
    fun item member => numbers item (same.perm.mem_iff.2 member)
  simp only [Store.answer, Ledger.answer]
  cases lowest : earliestLowest? score l.items with
  | none =>
    rw [lowest] at evicted
    rw [evicted.2]
    exact ⟨rfl, same⟩
  | some item =>
    rw [lowest] at evicted
    simp only [evicted.victim, true_and]
    exact same.taken evicted

/-- One call: the store and its ledger give the same answer and match afterwards. -/
theorem Matches.answer [OrderedScalar α] (same : s.Matches l) {call : StoreCall α}
    (allowed : call.Allowed s) : (s.answer call).1 = (l.answer call).1 ∧
      (s.answer call).2.Matches (l.answer call).2 := by
  cases call with
  | insert key entry => exact same.insert entry allowed
  | evictOldest => exact same.evictOldest
  | evictLowest score => exact same.evictLowest score allowed
  | retain keep =>
    obtain ⟨holds, count⟩ := same.toHolds.retain keep
    refine ⟨congrArg StoreAnswer.removed count, { holds with capacity_eq := ?_, nextSeq_eq := ?_ }⟩
    · exact same.capacity_eq
    · exact same.nextSeq_eq
  | setCapacity capacity =>
    exact ⟨rfl, { same.toHolds.setCapacity capacity with
      capacity_eq := rfl, nextSeq_eq := same.nextSeq_eq }⟩
  | get key => exact ⟨congrArg StoreAnswer.found (same.toHolds.get?_eq key), same⟩
  | contains key =>
    refine ⟨?_, same⟩
    simp only [Store.answer, Ledger.answer, contains, Ledger.get?, same.toHolds.get?_eq]

omit [Scalar α] in
theorem Holds.evictOldest_eq_none_iff {items : List (Key × Entry α)} (holds : s.Holds items) :
    s.evictOldest.victim = none ↔ items = [] := by
  cases items with
  | nil => simp [holds.evictOldest_nil]
  | cons item rest => simp [holds.evictOldest_cons.victim]

theorem Holds.evictLowest_eq_none_iff {items : List (Key × Entry α)} (holds : s.Holds items)
    (score : Entry α → α) : (s.evictLowest score).victim = none ↔ items = [] := by
  rw [← holds.lowest?_eq_none_iff score]
  cases picked : s.lowest? score with
  | none => simp only [Store.evictLowest, picked]
  | some found => simp [(holds.evictLowest_mem picked).victim]

end Store

/-- A store in use matches its ledger, whatever the shards, their keys and the orders of
visiting. -/
theorem StoreReach.matches [OrderedScalar α] {opened : Store α}
    {past : List (StoreCall α × StoreAnswer α)} (reach : StoreReach opened past s)
    (first : opened.Matches l) : l.Explains past ∧ s.Matches (l.after past) := by
  induction reach with
  | start => exact ⟨trivial, first⟩
  | reorder _ reordered ih => exact ⟨ih.1, ih.2.reordered reordered⟩
  | call request _ allowed ih =>
    obtain ⟨answer, left⟩ := ih.2.answer allowed
    exact ⟨⟨answer, ih.1⟩, left⟩

/-- A store refines one list in the order of insertion: it gives the answers of the ledger, counts
what the ledger lists, and finds nothing to evict exactly where the ledger is empty. -/
theorem store_refines_ledger [OrderedScalar α] {shards capacity : Nat} {place : Key → Nat}
    {past : List (StoreCall α × StoreAnswer α)}
    (reach : StoreReach (Store.empty shards capacity place) past s) :
    (Ledger.empty capacity).Explains past ∧ s.Matches ((Ledger.empty capacity).after past) ∧
      s.size = ((Ledger.empty capacity).after past).items.length ∧ s.counted = s.size ∧
      (s.evictOldest.victim = none ↔ ((Ledger.empty capacity).after past).items = []) ∧
      ∀ score, (s.evictLowest score).victim = none ↔
        ((Ledger.empty capacity).after past).items = [] := by
  obtain ⟨answers, same⟩ := reach.matches (Store.matches_empty shards capacity place)
  exact ⟨answers, same, same.size_eq, same.toHolds.counted_eq,
    same.toHolds.evictOldest_eq_none_iff, same.toHolds.evictLowest_eq_none_iff⟩

/-! ### Calls one after another -/

/-- The same store with all tables visited from the other end. -/
def Store.reversed (s : Store α) : Store α :=
  { s with shards := s.shards.map fun shard =>
      { shard with entries := ⟨shard.entries.entries.reverse, by
          rw [List.map_reverse, List.nodup_reverse]
          exact shard.entries.nodup⟩ } }

omit [Scalar α] in
theorem Store.reordered_reversed (s : Store α) : s.Reordered s.reversed := by
  have shard : ∀ (index : Nat) (before after : Shard α), s.shards[index]? = some before →
      s.reversed.shards[index]? = some after →
        after.order = before.order ∧ before.entries.entries.Perm after.entries.entries := by
    intro index before after old new
    simp only [reversed, List.getElem?_map, old, Option.map_some, Option.some.injEq] at new
    rw [← new]
    exact ⟨rfl, (List.reverse_perm _).symm⟩
  exact ⟨rfl, rfl, rfl, rfl, List.length_map _, fun i before after old new =>
    (shard i before after old new).1, fun i before after old new =>
    (shard i before after old new).2⟩

instance (call : StoreCall α) (s : Store α) : Decidable (call.Allowed s) :=
  match call with
  | .insert key _ => decidable_of_iff ((s.get? key).isNone = true) Option.isNone_iff_eq_none
  | .evictLowest score =>
    decidable_of_iff ((s.toList.all fun item => score item.2 == score item.2) = true)
      List.all_eq_true
  | .evictOldest | .retain _ | .setCapacity _ | .get _ | .contains _ => .isTrue trivial

/-- Calls one after another with the answers that a store gives, the latest first, and the store
after them. Before each call all tables are turned around. -/
def Store.replay (s : Store α) : List (StoreCall α) → List (StoreCall α × StoreAnswer α) × Store α
  | [] => ([], s)
  | call :: rest =>
    let answered := s.reversed.answer call
    let later := answered.2.replay rest
    (later.1 ++ [(call, answered.1)], later.2)

/-- Whether all of some calls one after another are allowed. -/
def Store.allows (s : Store α) : List (StoreCall α) → Bool
  | [] => true
  | call :: rest => decide (call.Allowed s.reversed) && (s.reversed.answer call).2.allows rest

/-- Allowed calls keep a store in use. -/
theorem StoreReach.replay {opened : Store α} {past : List (StoreCall α × StoreAnswer α)}
    (reach : StoreReach opened past s) {calls : List (StoreCall α)}
    (allowed : s.allows calls = true) :
    StoreReach opened ((s.replay calls).1 ++ past) (s.replay calls).2 := by
  induction calls generalizing past s with
  | nil => exact reach
  | cons call rest ih =>
    obtain ⟨now, later⟩ := Bool.and_eq_true_iff.1 allowed
    have called := (reach.reorder s.reordered_reversed).call call (of_decide_eq_true now)
    have reached := ih called later
    rw [Store.replay, List.append_assoc]
    exact reached

/-- The hashes of the entries that an answer hands over. -/
def StoreAnswer.hashes : StoreAnswer α → List String
  | .full entry => [entry.hash]
  | .evicted entry | .found entry => entry.toList.map Entry.hash
  | .stored | .removed _ | .present _ | .done => []

/-- Calls of a store with two shards: it is filled, refuses an entry, makes room for that, takes the
older one of two entries with the same score out, gets a smaller capacity and is emptied. -/
def mixedCalls : List (StoreCall Float) :=
  let entry (hash : String) (confidence : Float) : Entry Float :=
    ⟨hash, "block", "", "main", none, 7, 7, 1, confidence, 1, 0, .empty, 0⟩
  let insert (hash : String) (confidence : Float) : StoreCall Float :=
    .insert (.global hash) (entry hash confidence)
  [insert "a" 0.5, insert "bb" 0.9, insert "ccc" 0.5, insert "dddd" 0.5, .get (.global "bb"),
    .contains (.global "dddd"), .evictOldest, insert "dddd" 0.5, insert "eeeee" 0.5,
    .evictLowest Entry.confidence, .setCapacity 2, insert "eeeee" 0.5,
    .retain fun entry => 0.6 < entry.confidence, insert "eeeee" 0.5,
    .evictLowest Entry.confidence, .evictOldest, .evictOldest, insert "ffffff" 0.5]

theorem store_refines_ledger_mixed : ∃ past s,
    StoreReach (Store.empty 2 3 (fun key => key.hash.length) : Store Float) past s ∧
      past.length = 18 ∧
      past.reverse.map (fun pair => pair.2.hashes) = [[], [], [], ["dddd"], ["bb"], [], ["a"], [],
        ["eeeee"], ["ccc"], [], ["eeeee"], [], [], ["eeeee"], ["bb"], [], []] ∧
      (Ledger.empty 3).Explains past ∧
      (((Ledger.empty 3).after past).items.map fun item => (item.2.hash, item.2.seq)) =
        [("ffffff", 5)] ∧
      s.Matches ((Ledger.empty 3).after past) ∧ s.size = 1 ∧ s.counted = 1 := by
  have allowed : (Store.empty 2 3 fun key => key.hash.length : Store Float).allows mixedCalls =
      true := by
    decide +kernel
  have length : ((Store.empty 2 3 fun key => key.hash.length).replay mixedCalls).1.length = 18 := by
    decide +kernel
  have hashes : ((Store.empty 2 3 fun key => key.hash.length).replay mixedCalls).1.reverse.map
      (fun pair => pair.2.hashes) = [[], [], [], ["dddd"], ["bb"], [], ["a"], [], ["eeeee"],
        ["ccc"], [], ["eeeee"], [], [], ["eeeee"], ["bb"], [], []] := by
    decide +kernel
  have items : (((Ledger.empty 3).after ((Store.empty 2 3 fun key =>
      key.hash.length).replay mixedCalls).1).items.map fun item =>
        (item.2.hash, item.2.seq)) = [("ffffff", 5)] := by
    decide +kernel
  have reach := StoreReach.start.replay allowed
  generalize (Store.empty 2 3 fun key => key.hash.length).replay mixedCalls = result at *
  rw [List.append_nil] at reach
  obtain ⟨explains, same, size, counted, _⟩ := store_refines_ledger reach
  have one : result.2.size = 1 := by
    rw [size, ← List.length_map (fun item : Key × Entry Float => (item.2.hash, item.2.seq)), items]
    rfl
  exact ⟨result.1, result.2, reach, length, hashes, explains, items, same, one,
    counted.trans one⟩

end GossipGate
