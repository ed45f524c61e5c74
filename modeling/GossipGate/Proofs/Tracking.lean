import GossipGate.Proofs.Averages
import GossipGate.Proofs.Blacklist

namespace GossipGate

variable {α : Type} [Scalar α] {s : Store α} {items : List (Key × Entry α)} {e : Engine α}
  {now : Nat} {m : Message} {seen : Sighting α}

/-- Whatever the store made of a message, it holds an entry under its key that was seen now. -/
theorem Admits.tracks {admission : Admission α} (admits : Admits e now seen s items admission)
    (holds : s.Holds items) :
    ∃ entry, admission.store.get? seen.key = some entry ∧ entry.lastSeen = now := by
  cases admits with
  | @duplicate entry found _ =>
    have changed := holds.get?_modify seen.key seen.key (f := e.sightAgain now)
      Engine.sightAgain_seq
    rw [if_pos rfl, found] at changed
    exact ⟨_, changed, Engine.sightAgain_lastSeen entry⟩
  | @refreshed entry found _ =>
    have changed := holds.get?_modify seen.key seen.key
      (f := fun old => old.restart now seen.confidence) fun _ => rfl
    rw [if_pos rfl, found] at changed
    exact ⟨_, changed, rfl⟩
  | inserted absent stored =>
    have added := holds.get?_insert absent stored seen.key
    rw [if_pos rfl] at added
    exact ⟨_, added, rfl⟩
  | replaced absent _ takes stored =>
    have gone := takes.left.absent_iff.2 fun other member =>
      holds.absent_iff.1 absent other (List.mem_of_mem_filter member)
    have added := takes.left.get?_insert gone stored seen.key
    rw [if_pos rfl] at added
    exact ⟨_, added, rfl⟩

/-- At most one entry is evicted, for a new key in a full store, and it has another key. -/
theorem Admits.evicts {admission : Admission α} (admits : Admits e now seen s items admission)
    (holds : s.Holds items) : admission.evicted = [] ∨
      s.get? seen.key = none ∧ s.size = s.capacity ∧ ∃ key entry, key ≠ seen.key ∧
        s.get? key = some entry ∧ admission.evicted = [entry] := by
  cases admits with
  | duplicate | refreshed | inserted => exact Or.inl rfl
  | @replaced item _ absent full takes _ =>
    refine Or.inr ⟨absent, full, item.1, item.2, ?_, ?_, rfl⟩
    · exact holds.absent_iff.1 absent item takes.member
    · exact (holds.lookup item.1 item.2).2 takes.member

theorem Admits.outcome_ne_dropped {admission : Admission α}
    (admits : Admits e now seen s items admission) : admission.outcome ≠ .dropped := by
  cases admits <;> simp

/-- What an admission makes of a message does not depend on how often it may try. -/
theorem Admits.unique {first second : Admission α} (left : Admits e now seen s items first)
    (right : Admits e now seen s items second) : first = second := by
  -- The cases exclude each other by what is stored under the key and by the room in the store.
  cases left with
  | duplicate found live =>
    cases right with
    | duplicate => rfl
    | refreshed again expired =>
      cases Option.some.inj (found.symm.trans again)
      rw [live] at expired
      cases expired
    | inserted absent _ | replaced absent _ _ _ =>
      rw [found] at absent
      cases absent
  | refreshed found expired =>
    cases right with
    | duplicate again live =>
      cases Option.some.inj (found.symm.trans again)
      rw [live] at expired
      cases expired
    | refreshed => rfl
    | inserted absent _ | replaced absent _ _ _ =>
      rw [found] at absent
      cases absent
  | inserted absent stored =>
    cases right with
    | duplicate found _ | refreshed found _ =>
      rw [found] at absent
      cases absent
    | inserted _ again =>
      rw [Option.some.inj (stored.symm.trans again)]
    | replaced _ full _ _ => simp [Store.insert?, full] at stored
  | replaced absent full takes stored =>
    cases right with
    | duplicate found _ | refreshed found _ =>
      rw [found] at absent
      cases absent
    | inserted _ again => simp [Store.insert?, full] at again
    | replaced _ _ takesAgain again =>
      have victim := takes.victim.symm.trans takesAgain.victim
      rw [Option.some.inj (stored.symm.trans again), Option.some.inj victim]

namespace Engine

theorem judgeCaller_profile (a : Arrival α) (duplicate : Bool) :
    (e.judgeCaller a m duplicate).1.profile = e.profile := by
  unfold judgeCaller
  split
  · rw [judge_fst]
  · rfl

theorem suppress_profile (a : Arrival α) : (e.suppress a m).engine.profile = e.profile := by
  unfold suppress
  exact judgeCaller_profile a true

theorem pass_profile {a : Arrival α} {outcome : Outcome} {reply : Reply α Bool}
    (passed : e.pass now a m outcome = .ok reply) : reply.engine.profile = e.profile := by
  obtain ⟨adjusted, due, last⟩ := bind_eq_ok passed
  cases last
  refine (adjustIfDue_profile due).trans ?_
  split
  · exact judgeCaller_profile a false
  · rfl

/-- No message changes the tier. -/
theorem Receives.profile {reply : Reply α Bool} (receives : e.Receives now m reply) :
    reply.engine.profile = e.profile := by
  cases receives with
  | nameless => rfl
  | blocked _ _ arrived => exact (arrive_follows arrived).profile
  | suppressed _ _ arrived _ => exact (suppress_profile _).trans (arrive_follows arrived).profile
  | passed _ _ arrived _ passed =>
    exact (pass_profile passed).trans (arrive_follows arrived).profile

/-- A message that was let through asked the store for its key. -/
theorem Receives.asks {reply : Reply α Bool} (receives : e.Receives now m reply)
    (named : m.hash.isEmpty = false) (passes : reply.value = false) :
    e.asked? m = some (e.keyOf m) := by
  cases decided : e.blocks m with
  | false => simp [asked?, named, decided]
  | true =>
    have unasked : e.asked? m = none := by simp [asked?, decided]
    rw [(receives.unasked unasked).2.1, named, decided] at passes
    cases passes

/-- A message whose key was seen at this reading of the clock is suppressed. -/
theorem Measurable.receive_again [RoundedScalar α] (measurable : e.Measurable)
    (reading : now < UInt64.size) (holds : e.store.Holds items) (usable : 0 < e.store.capacity)
    (fits : e.store.size ≤ e.store.capacity) (named : m.hash.isEmpty = false) {entry : Entry α}
    (found : e.store.get? (e.keyOf m) = some entry) (latest : entry.lastSeen = now) :
    ∃ reply, e.receive now m = .ok reply ∧ reply.value = true := by
  obtain ⟨a, arrived⟩ := measurable.arrive reading m
  have follows := arrive_follows arrived
  cases decided : e.blocks m with
  | true => exact ⟨_, receive_blocked named decided arrived, rfl⟩
  | false =>
    have live : entry.isLive now (a.engine.sighting a m).ttl = true := by
      refine decide_eq_true ?_
      rw [latest, Nat.sub_self]
      exact Nat.zero_le _
    have duplicate : (lookUp now a m).outcome = .duplicate := by
      refine (lookUp_admits holds usable fits arrived).duplicate_iff.2 ⟨entry, ?_, live⟩
      rw [follows.key]
      exact found
    have received := receive_resolves named decided arrived
    rw [resolve_duplicate duplicate] at received
    exact ⟨_, received, rfl⟩

/-- What a message that was let through leaves behind. -/
structure Remembers (gate : Engine α) (now : Nat) (m : Message) (reply : Reply α Answer) :
    Prop where
  evicted : (Step.mk gate now (.message m) reply).evicted = [] ∨
    gate.store.get? (gate.keyOf m) = none ∧ gate.store.size = gate.store.capacity ∧
      ∃ key entry, key ≠ gate.keyOf m ∧ gate.store.get? key = some entry ∧
        (Step.mk gate now (.message m) reply).evicted = [entry]
  tracked : ∃ entry, reply.engine.store.get? (gate.keyOf m) = some entry ∧ entry.lastSeen = now
  repeated : ∀ again, reply.engine.Reordered again →
    ∃ second, again.perform now (.message m) = .ok second ∧ second.value = .verdict true

end Engine

variable {c : Config α} {opened : Nat} {past : List (Step α)}

theorem Run.receive_again [RoundedScalar α] (run : Run c opened past e)
    (clocks : ∀ step ∈ past, step.now < UInt64.size) (reading : now < UInt64.size)
    (named : m.hash.isEmpty = false) {entry : Entry α}
    (found : e.store.get? (e.keyOf m) = some entry) (latest : entry.lastSeen = now)
    {gate : Engine α} (reordered : e.Reordered gate) :
    ∃ reply, gate.receive now m = .ok reply ∧ reply.value = true := by
  obtain ⟨items, held, holds, usable, fits⟩ := run.ready reordered
  have measurable := (run.measurable clocks).reordered reordered
  have stored : gate.store.get? (e.keyOf m) = some entry :=
    (holds.lookup _ _).2 ((held.lookup _ _).1 found)
  obtain ⟨store, _, rfl⟩ := reordered
  exact measurable.receive_again reading holds usable fits named stored latest

/-- Every message that is let through is tracked: two attempts to store it are enough, it costs at
most one other entry, and the same message is suppressed at the same reading of the clock. -/
theorem Run.passed_tracked [RoundedScalar α] (run : Run c opened past e)
    (clocks : ∀ step ∈ past, step.now < UInt64.size) {gate : Engine α}
    (reordered : e.Reordered gate) (reading : now < UInt64.size) (named : m.hash.isEmpty = false) :
    (∃ a, gate.arrive now m = .ok a ∧ (Engine.lookUp now a m).outcome ≠ .dropped ∧
      ∀ attempts ≥ 2, a.engine.track now (a.engine.sighting a m) attempts gate.store =
        Engine.lookUp now a m) ∧
    ∀ reply, gate.perform now (.message m) = .ok reply → reply.value = .verdict false →
      gate.Remembers now m reply := by
  obtain ⟨items, _, holds, usable, fits⟩ := run.ready reordered
  constructor
  · have measurable := (run.measurable clocks).reordered reordered
    obtain ⟨a, arrived⟩ := measurable.arrive reading m
    have admits := Engine.lookUp_admits holds usable fits arrived
    refine ⟨a, arrived, admits.outcome_ne_dropped, fun attempts enough => ?_⟩
    obtain ⟨more, rfl⟩ := Nat.exists_eq_add_of_le' enough
    exact (Engine.track_admits holds usable fits more).unique admits
  · intro reply performed passes
    have extended := run.call reordered performed
    obtain ⟨answer, answered, rfl⟩ := Engine.perform_message performed
    have receives := Engine.receive_receives answered
    have asks := receives.asks named (Answer.verdict.inj passes)
    obtain ⟨a, arrived, admission, stored, _⟩ := receives.asked asks
    have key := (Engine.arrive_follows arrived).key
    have admits := Engine.lookUp_admits holds usable fits arrived
    have evicts := admits.evicts holds
    obtain ⟨entry, found, latest⟩ := admits.tracks holds
    rw [key] at evicts
    rw [key, ← stored] at found
    refine ⟨?_, ⟨entry, found, latest⟩, fun again reorderedAgain => ?_⟩
    · have evicted : (Step.mk gate now (.message m) (answer.map .verdict)).evicted =
          (Engine.lookUp now a m).evicted := by
        simp only [Step.evicted, Step.admission?, admission, Option.map_some, Option.getD_some]
      rw [evicted]
      exact evicts
    · have sameKey : answer.engine.keyOf m = gate.keyOf m := by
        unfold Engine.keyOf
        rw [receives.profile]
      have readings : ∀ step ∈ Step.mk gate now (.message m) (answer.map .verdict) :: past,
          step.now < UInt64.size := List.forall_mem_cons.2 ⟨reading, clocks⟩
      rw [← sameKey] at found
      obtain ⟨second, received, suppressed⟩ :=
        extended.receive_again readings reading named found latest reorderedAgain
      exact ⟨_, Engine.perform_of_receive received, congrArg Answer.verdict suppressed⟩

/-- The second message takes the only place in the store, and is suppressed from then on. -/
theorem passed_tracked_crowded : ∃ (past : List (Step Float)) (e : Engine Float)
    (reply second : Reply Float Answer) (entry : Entry Float),
    Run (crowdedConfig (some 1)) 0 past e ∧ (∀ step ∈ past, step.now < UInt64.size) ∧
      e.perform 1 (.message ⟨"b", "block", "", .empty⟩) = .ok reply ∧
      reply.value = .verdict false ∧
      (Step.mk e 1 (.message ⟨"b", "block", "", .empty⟩) reply).evicted = [entry] ∧
      reply.engine.perform 1 (.message ⟨"b", "block", "", .empty⟩) = .ok second ∧
      second.value = .verdict true := by
  have usable : (crowdedConfig (some 1)).problem? = none := by decide +kernel
  let b : Message := ⟨"b", "block", "", .empty⟩
  have reaches : (Engine.assemble (crowdedConfig (some 1)) (by decide) 0).engine.reaches
      [(0, .message ⟨"a", "block", "", .empty⟩)] (fun e => match e.perform 1 (.message b) with
        | .ok reply => decide (reply.value = .verdict false ∧
            (Step.mk e 1 (.message b) reply).evicted.length = 1)
        | .error _ => false) = true := by
    decide +kernel
  obtain ⟨past, e, run, _, requests, facts⟩ := Run.of_reaches usable reaches
  have clocks : ∀ step ∈ past, step.now < UInt64.size := by
    intro step member
    rw [show step.now = 0 from congrArg Prod.fst (List.mem_singleton.1 (requests step member))]
    decide
  cases passed : e.perform 1 (.message b) with
  | error => simp only [passed, Bool.false_eq_true] at facts
  | ok reply =>
    simp only [passed] at facts
    obtain ⟨value, one⟩ := of_decide_eq_true facts
    have reading : 1 < UInt64.size := by decide
    have named : b.hash.isEmpty = false := rfl
    have remembers := (run.passed_tracked clocks (Engine.Reordered.refl e) reading named).2 reply
      passed value
    obtain ⟨entry, evicted⟩ := List.length_eq_one_iff.1 one
    obtain ⟨second, performed, suppressed⟩ :=
      remembers.repeated reply.engine (Engine.Reordered.refl _)
    exact ⟨past, e, reply, second, entry, run, clocks, passed, value, evicted, performed,
      suppressed⟩

end GossipGate
