import GossipGate.Proofs.Faultless

namespace GossipGate

variable {α : Type} [Scalar α]

/-! ### What a call is to the entry under a key -/

namespace Step

/-- What the store made of the message of a call under a key, if the call asked it for that key. -/
def sighting? (step : Step α) (key : Key) : Option Outcome :=
  if step.asked? = some key then step.admission?.map Admission.outcome else none

/-- Whether a call stored an entry under a key. -/
def stores (step : Step α) (key : Key) : Bool := step.sighting? key = some .inserted

/-- Whether a call sighted the live entry under a key once more. -/
def repeats (step : Step α) (key : Key) : Bool := step.sighting? key = some .duplicate

/-- Whether a call stored an entry under a key, or started the expired one there anew. -/
def begins (step : Step α) (key : Key) : Bool :=
  step.stores key || step.sighting? key = some .refreshed

/-- Whether a call stored, restarted or touched the entry under a key. -/
def sights (step : Step α) (key : Key) : Bool := step.begins key || step.repeats key

/-- What a call did to the entry that it left under a key: nothing, or it touched, restarted or
stored the entry. -/
inductive Leaves (step : Step α) (key : Key) (entry : Entry α) : Prop
  | kept : step.sighting? key = none → step.before.store.get? key = some entry →
      Leaves step key entry
  | touched {old} : step.sighting? key = some .duplicate →
      step.before.store.get? key = some old → entry.firstSeen = old.firstSeen →
      entry.seq = old.seq → entry.lastSeen = step.now → entry.seenCount = old.seenCount + 1 →
      Leaves step key entry
  | restarted {old} : step.sighting? key = some .refreshed →
      step.before.store.get? key = some old → entry.firstSeen = old.firstSeen →
      entry.seq = old.seq → entry.lastSeen = step.now → entry.seenCount = 1 →
      Leaves step key entry
  | stored : step.sighting? key = some .inserted → step.before.store.get? key = none →
      entry.firstSeen = step.now → entry.seq = step.before.store.nextSeq →
      entry.lastSeen = step.now → entry.seenCount = 1 → Leaves step key entry

end Step

section Admissions

variable {e : Engine α} {now : Nat} {s : Store α} {items : List (Key × Entry α)}
  {seen : Sighting α} {admission : Admission α}

/-- An admission issues one number per insertion. -/
theorem Admits.nextSeq (admits : Admits e now seen s items admission) :
    admission.store.nextSeq = s.nextSeq + if admission.outcome = .inserted then 1 else 0 := by
  cases admits with
  | duplicate | refreshed => rfl
  | inserted _ inserts => exact Store.nextSeq_insert? inserts
  | replaced _ _ takes inserts =>
    rw [Store.nextSeq_insert? inserts, takes.nextSeq]
    rfl

/-- An admission numbers and dates what it stores. -/
theorem Admits.leaves (admits : Admits e now seen s items admission) (holds : s.Holds items)
    {step : Step α} (sighting : step.sighting? seen.key = some admission.outcome)
    (before : step.before.store = s) (at_now : step.now = now) {entry : Entry α}
    (found : admission.store.get? seen.key = some entry) : step.Leaves seen.key entry := by
  cases admits with
  | @duplicate old stored _ =>
    rw [holds.get?_modify seen.key seen.key Engine.sightAgain_seq, if_pos rfl, stored] at found
    cases found
    obtain ⟨_, _, _, same⟩ : ∃ lastSeen seenCount confidence, e.sightAgain now old =
        { old with lastSeen, seenCount, confidence } := Engine.sightAgain_eq old
    refine .touched sighting (before ▸ stored) ?_ (Engine.sightAgain_seq old)
      ((Engine.sightAgain_lastSeen old).trans at_now.symm) (Engine.sightAgain_seenCount old)
    rw [same]
  | refreshed stored _ =>
    rw [holds.get?_modify seen.key seen.key (f := fun old => old.restart now seen.confidence)
      fun _ => rfl, if_pos rfl, stored] at found
    cases found
    subst before
    exact .restarted sighting stored rfl rfl at_now.symm rfl
  | inserted absent inserts =>
    rw [holds.get?_insert absent inserts, if_pos rfl] at found
    cases found
    exact .stored sighting (before ▸ absent) at_now.symm (by rw [before]) at_now.symm rfl
  | replaced absent _ takes inserts =>
    have gone := takes.left.absent_iff.2 fun other member =>
      holds.absent_iff.1 absent other (List.mem_of_mem_filter member)
    rw [takes.left.get?_insert gone inserts, if_pos rfl] at found
    cases found
    exact .stored sighting (before ▸ absent) at_now.symm (by rw [before, takes.nextSeq])
      at_now.symm rfl

end Admissions

namespace Engine

variable {e : Engine α} {now : Nat} {items : List (Key × Entry α)}

theorem perform_leaves (holds : e.store.Holds items) (usable : 0 < e.store.capacity)
    (fits : e.store.size ≤ e.store.capacity) {call : Call} {reply : Reply α Answer}
    (performed : e.perform now call = .ok reply) {key : Key} {entry : Entry α}
    (found : reply.engine.store.get? key = some entry) :
    Step.Leaves ⟨e, now, call, reply⟩ key entry := by
  obtain ⟨left, accounts⟩ := perform_accounts holds usable fits performed
  have member := (accounts.holds.lookup key entry).1 found
  rcases accounts.origin _ member with ⟨stored, unasked⟩ | ⟨asked, _⟩
  · exact .kept (if_neg unasked) ((holds.lookup key entry).2 stored)
  cases call with
  | message m =>
    obtain ⟨answer, answered, rfl⟩ := perform_message performed
    have asks : e.asked? m = some key := asked
    obtain ⟨a, arrived, admitted, same, _⟩ := (receive_receives answered).asked asks
    have own : (a.engine.sighting a m).key = key :=
      (arrive_follows arrived).key.trans (asked?_eq_some asks).2.symm
    have admission : (Step.mk e now (.message m) (answer.map .verdict)).admission? =
        some (lookUp now a m) := admitted
    subst own
    refine (lookUp_admits holds usable fits arrived).leaves holds ?_ rfl rfl (same ▸ found)
    rw [Step.sighting?, if_pos asked, admission, Option.map_some]
  | activity | cleanup | setTier | close => cases asked

/-- The store numbers its entries in the order in which calls insert them. -/
theorem perform_nextSeq (holds : e.store.Holds items) (usable : 0 < e.store.capacity)
    (fits : e.store.size ≤ e.store.capacity) {call : Call} {reply : Reply α Answer}
    (performed : e.perform now call = .ok reply) :
    reply.engine.store.nextSeq =
      e.store.nextSeq + (Step.mk e now call reply).inserted := by
  cases call with
  | message m =>
    obtain ⟨answer, answered, rfl⟩ := perform_message performed
    have receives := receive_receives answered
    cases asks : e.asked? m with
    | none =>
      obtain ⟨same, _, unadmitted⟩ := receives.unasked asks
      have none : (Step.mk e now (.message m) (answer.map .verdict)).inserted = 0 := by
        simp [Step.inserted, Step.admission?, unadmitted]
      rw [none]
      exact congrArg Store.nextSeq same
    | some key =>
      obtain ⟨a, arrived, admitted, same, _⟩ := receives.asked asks
      have inserted : (Step.mk e now (.message m) (answer.map .verdict)).inserted =
          if (lookUp now a m).outcome = .inserted then 1 else 0 := by
        simp [Step.inserted, Step.admission?, admitted]
      rw [inserted, ← (lookUp_admits holds usable fits arrived).nextSeq]
      exact congrArg Store.nextSeq same
  | activity peer =>
    obtain rfl := Except.ok.inj performed
    exact congrArg Store.nextSeq (meet_store peer)
  | cleanup | close =>
    obtain rfl := Except.ok.inj performed
    rfl
  | setTier requested =>
    obtain rfl := Except.ok.inj performed
    have store : (e.setTier now requested).engine.store =
        (e.shrunk now (.serving requested)).1 := by rw [setTier_eq, retiered_store]
    show (e.setTier now requested).engine.store.nextSeq = e.store.nextSeq
    rw [store]
    generalize Tier.serving requested = tier
    exact evictMany_nextSeq _ now _ _

end Engine

/-! ### The life of an entry -/

/-- Some past calls, the latest first, split at the one that stored an entry under a key. The key
has held the entry ever since. -/
structure Entry.Born (entry : Entry α) (key : Key) (later : List (Step α)) (step : Step α)
    (earlier : List (Step α)) : Prop where
  stores : step.stores key = true
  last : ∀ other ∈ later, other.stores key = false
  held : ∀ other ∈ later ++ [step], ∃ kept, other.reply.engine.store.get? key = some kept ∧
    kept.seq = entry.seq
  firstSeen : entry.firstSeen = step.now
  seq : entry.seq = (earlier.map Step.inserted).sum

/-- What the fields of an entry under a key tell of the past calls, the latest first: when the call
came that stored it and how many insertions were before, when the latest call came that sighted it,
and how many repetitions came since it was stored or started anew. -/
structure Entry.Remembers (entry : Entry α) (key : Key) (past : List (Step α)) : Prop where
  born : ∃ later step earlier, past = later ++ step :: earlier ∧
    entry.Born key later step earlier
  lastSeen : (past.find? fun step => step.sights key).map Step.now = some entry.lastSeen
  seenCount : entry.seenCount =
    1 + (past.takeWhile fun step => !step.begins key).countP fun step => step.repeats key

namespace Entry

variable {entry old : Entry α} {key : Key} {past : List (Step α)} {step : Step α}

/-- A call that does not store an entry under the key leaves the birth of the one there. -/
theorem Remembers.born_later (remembers : old.Remembers key past)
    (unstored : step.stores key = false)
    (found : step.reply.engine.store.get? key = some entry)
    (firstSeen : entry.firstSeen = old.firstSeen) (seq : entry.seq = old.seq) :
    ∃ later birth earlier, step :: past = later ++ birth :: earlier ∧
      entry.Born key later birth earlier := by
  obtain ⟨later, birth, earlier, split, born⟩ := remembers.born
  refine ⟨step :: later, birth, earlier, by rw [split, List.cons_append], born.stores,
    List.forall_mem_cons.2 ⟨unstored, born.last⟩, ?_, firstSeen.trans born.firstSeen,
    seq.trans born.seq⟩
  rw [List.cons_append]
  refine List.forall_mem_cons.2 ⟨⟨entry, found, rfl⟩, fun other member => ?_⟩
  obtain ⟨kept, stored, same⟩ := born.held other member
  exact ⟨kept, stored, same.trans seq.symm⟩

/-- What an entry remembers after one more call. -/
theorem remembers_cons (leaves : step.Leaves key entry)
    (before : ∀ old, step.before.store.get? key = some old → old.Remembers key past)
    (issued : step.before.store.nextSeq = (past.map Step.inserted).sum)
    (found : step.reply.engine.store.get? key = some entry) :
    entry.Remembers key (step :: past) := by
  cases leaves with
  | kept unsighted stored =>
    have remembers := before entry stored
    refine ⟨remembers.born_later (by simp [Step.stores, unsighted]) found rfl rfl, ?_, ?_⟩
    · simpa [Step.sights, Step.begins, Step.stores, Step.repeats, unsighted] using
        remembers.lastSeen
    · simpa [Step.begins, Step.stores, Step.repeats, unsighted] using remembers.seenCount
  | @touched old again stored firstSeen seq lastSeen seenCount =>
    have remembers := before old stored
    refine ⟨remembers.born_later (by simp [Step.stores, again]) found firstSeen seq, ?_, ?_⟩
    · simp [Step.sights, Step.begins, Step.stores, Step.repeats, again, lastSeen]
    · rw [seenCount, remembers.seenCount]
      simp [Step.begins, Step.stores, Step.repeats, again, Nat.add_assoc]
  | @restarted old anew stored firstSeen seq lastSeen seenCount =>
    have remembers := before old stored
    refine ⟨remembers.born_later (by simp [Step.stores, anew]) found firstSeen seq, ?_, ?_⟩
    · simp [Step.sights, Step.begins, anew, lastSeen]
    · rw [seenCount]
      simp [Step.begins, anew]
  | stored first absent firstSeen seq lastSeen seenCount =>
    refine ⟨⟨[], step, past, rfl, by simp [Step.stores, first], by simp, ?_, firstSeen,
      seq.trans issued⟩, ?_, ?_⟩
    · rintro other member
      rw [List.mem_singleton.1 member]
      exact ⟨entry, found, rfl⟩
    · simp [Step.sights, Step.begins, Step.stores, first, lastSeen]
    · rw [seenCount]
      simp [Step.begins, Step.stores, first]

/-- Where the clock never goes back, an entry was first seen before it was last seen, and that
before now. -/
theorem Remembers.ordered (remembers : entry.Remembers key past) {now : Nat}
    (forward : (now :: past.map Step.now).Pairwise (· ≥ ·)) :
    entry.firstSeen ≤ entry.lastSeen ∧ entry.lastSeen ≤ now := by
  obtain ⟨latest, descending⟩ := List.pairwise_cons.1 forward
  obtain ⟨sighted, found, last⟩ := Option.map_eq_some_iff.1 remembers.lastSeen
  have member := List.mem_of_find?_eq_some found
  refine ⟨?_, last ▸ latest _ (List.mem_map_of_mem member)⟩
  obtain ⟨later, step, earlier, rfl, born⟩ := remembers.born
  rw [born.firstSeen, ← last]
  have own : step.sights key = true := by simp [Step.sights, Step.begins, born.stores]
  rw [List.find?_append] at found
  cases among : later.find? fun step => step.sights key with
  | some other =>
    rw [among] at found
    cases found
    rw [List.map_append, List.pairwise_append] at descending
    exact descending.2.2 _ (List.mem_map_of_mem (List.mem_of_find?_eq_some among)) _
      (List.mem_map_of_mem List.mem_cons_self)
  | none =>
    rw [among, Option.none_or, List.find?_cons, own] at found
    cases found
    exact le_rfl

end Entry

variable {c : Config α} {opened : Nat} {past : List (Step α)} {e : Engine α}

theorem Run.remembers (run : Run c opened past e) :
    e.store.nextSeq = (past.map Step.inserted).sum ∧
      ∀ key entry, e.store.get? key = some entry → entry.Remembers key past := by
  induction run with
  | start started =>
    obtain ⟨ordered, rfl⟩ := Engine.start_assemble started
    have empty := Store.holds_empty (α := α) c.effectiveShards c.effectiveCapacity Key.fingerprint
    refine ⟨rfl, fun key entry found => ?_⟩
    cases (empty.lookup key entry).1 found
  | @call past e gate now call reply before reordered performed ih =>
    obtain ⟨issued, remembered⟩ := ih
    obtain ⟨items, held, holds, usable, fits⟩ := before.ready reordered
    have same : gate.store.nextSeq = e.store.nextSeq := by
      obtain ⟨store, sameStore, rfl⟩ := reordered
      exact sameStore.nextSeq
    refine ⟨?_, fun key entry found => ?_⟩
    · rw [Engine.perform_nextSeq holds usable fits performed, same, issued, List.map_cons,
        List.sum_cons, Nat.add_comm]
    · refine Entry.remembers_cons (Engine.perform_leaves holds usable fits performed found) ?_
        (same.trans issued) found
      intro old stored
      exact remembered key old ((held.lookup key old).2 ((holds.lookup key old).1 stored))

/-- The fields of the life of an entry mean what they say. The first sighting is the call that
stored the entry and the number counts the insertions before it, the last sighting is the latest
call that stored, restarted or touched it, and the count is of the repetitions since it was stored
or restarted. Where the clock never goes back the first sighting is not after the last one, and
neither is ahead of the clock. No two entries have the same number. -/
theorem Run.entry_lives (run : Run c opened past e) :
    (∀ key entry, (key, entry) ∈ e.store.toList → entry.Remembers key past ∧
      ∀ now, (now :: past.map Step.now).Pairwise (· ≥ ·) →
        entry.firstSeen ≤ entry.lastSeen ∧ entry.lastSeen ≤ now) ∧
      (e.store.entries.map Entry.seq).Nodup := by
  obtain ⟨items, holds, _⟩ := run.ready (Engine.Reordered.refl e)
  refine ⟨fun key entry member => ?_, ?_⟩
  · have remembers := run.remembers.2 key entry (holds.mem_toList.1 member)
    exact ⟨remembers, fun now forward => remembers.ordered forward⟩
  · rw [Store.entries, List.map_map, (holds.perm.map _).nodup_iff, List.Nodup, List.pairwise_map]
    exact holds.sorted.imp fun lower => lower.ne

/-- Calls of a gate with room for one entry: the first entry makes room for another one, comes back,
is repeated, expires, starts anew and is repeated again. -/
def returningCalls : List (Nat × Call) :=
  [(0, .message ⟨"a", "t", "", .empty⟩), (1, .message ⟨"b", "t", "", .empty⟩),
    (2, .message ⟨"a", "t", "", .empty⟩), (3, .message ⟨"a", "t", "", .empty⟩),
    (1000000000, .message ⟨"a", "t", "", .empty⟩), (1000000007, .message ⟨"a", "t", "", .empty⟩)]

theorem entry_lives_returning : ∃ (past : List (Step Float)) (e : Engine Float) (key : Key)
    (entry : Entry Float), Run (crowdedConfig none) 0 past e ∧
      (key, entry) ∈ e.store.toList ∧ entry.firstSeen = 2 ∧ entry.lastSeen = 1000000007 ∧
      entry.seenCount = 2 ∧ entry.seq = 2 ∧
      entry.Remembers key past ∧
      (1000000008 :: past.map Step.now).Pairwise (· ≥ ·) ∧
      entry.firstSeen ≤ entry.lastSeen ∧ entry.lastSeen ≤ 1000000008 := by
  have usable : (crowdedConfig none).problem? = none := by decide +kernel
  have traced : ((Engine.assemble (crowdedConfig none) (by decide) 0).engine.trace
      returningCalls).toOption.any (fun past => past.head?.any fun step =>
        step.reply.engine.store.toList.any fun item => item.2.firstSeen == 2 &&
          item.2.lastSeen == 1000000007 && item.2.seenCount == 2 && item.2.seq == 2) = true := by
    decide +kernel
  obtain ⟨past, e, run, requests, facts⟩ := Run.of_trace usable traced
  have clocks : past.map Step.now = [1000000007, 1000000000, 3, 2, 1, 0] := by
    have read := congrArg (List.map Prod.fst) requests
    rw [List.map_map] at read
    exact read
  cases run with
  | start => cases facts
  | @call earlier before gate now call reply prior reordered performed =>
    obtain ⟨⟨key, entry⟩, member, fields⟩ := List.any_eq_true.1 facts
    simp only [Bool.and_eq_true, beq_iff_eq] at fields
    obtain ⟨⟨⟨firstSeen, lastSeen⟩, seenCount⟩, seq⟩ := fields
    have run := prior.call reordered performed
    have forward : (1000000008 :: ((⟨gate, now, call, reply⟩ : Step Float) :: earlier).map
        Step.now).Pairwise (· ≥ ·) := by
      rw [clocks]
      decide
    obtain ⟨remembers, dates⟩ := run.entry_lives.1 key entry member
    exact ⟨_, _, key, entry, run, member, firstSeen, lastSeen, seenCount, seq, remembers,
      forward, dates _ forward⟩

end GossipGate
