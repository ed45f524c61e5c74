import GossipGate.Metrics.Samples
import GossipGate.Proofs.Run
import Mathlib.Algebra.GroupWithZero.Nat

namespace GossipGate

variable {α : Type} [Scalar α]

/-- Whether a sample counts the evictions up by one. -/
def Sample.countsEviction (s : Sample α) : Bool := s.metric = .evictions && s.value.isNone

/-- By how much some events count the evictions up, over all series. -/
def evictionsCounted (events : List (Event α)) : Nat :=
  (events.flatMap Event.samples).countP Sample.countsEviction

theorem evictionsCounted_append (first second : List (Event α)) :
    evictionsCounted (first ++ second) = evictionsCounted first + evictionsCounted second := by
  unfold evictionsCounted
  rw [List.flatMap_append, List.countP_append]

theorem evictionsCounted_map_evicted (tier : Tier) (policy : EvictionPolicy)
    (entries : List (Entry α)) :
    evictionsCounted (entries.map (.evicted tier policy)) = entries.length := by
  induction entries with
  | nil => rfl
  | cons entry rest ih =>
    rw [List.map_cons, List.length_cons, ← ih, ← List.singleton_append, evictionsCounted_append,
      Nat.add_comm]
    rfl

/-- An event of another kind counts no eviction. -/
theorem Event.countP_samples {event : Event α} (other : ∀ tier policy entry,
    event ≠ .evicted tier policy entry) : event.samples.countP Sample.countsEviction = 0 := by
  cases event with
  | evicted tier policy entry => exact absurd rfl (other tier policy entry)
  | ttlAdjusted tier rate old change =>
    cases direction : change.direction <;> simp [samples, direction, Sample.countsEviction]
  | _ => simp [samples, Sample.countsEviction]

theorem evictionsCounted_eq_zero {events : List (Event α)}
    (others : ∀ event ∈ events, ∀ tier policy entry, event ≠ .evicted tier policy entry) :
    evictionsCounted events = 0 := by
  induction events with
  | nil => rfl
  | cons event rest ih =>
    rw [← List.singleton_append, evictionsCounted_append, ih fun event member =>
      others event (List.mem_cons_of_mem _ member)]
    simp [evictionsCounted, Event.countP_samples (others event List.mem_cons_self)]

namespace Engine

variable {e : Engine α} {now : Nat} {m : Message}

theorem evictionsCounted_judge (peer : String) (duplicate : Bool) :
    evictionsCounted (e.judge peer duplicate).2 = 0 := by
  unfold judge
  cases e.peers.get? peer with
  | none => rfl
  | some record =>
    dsimp only
    split <;> exact evictionsCounted_eq_zero (by simp)

theorem evictionsCounted_judgeCaller (a : Arrival α) (duplicate : Bool) :
    evictionsCounted (e.judgeCaller a m duplicate).2 = 0 := by
  unfold judgeCaller
  split
  · exact evictionsCounted_judge m.peer duplicate
  · rfl

theorem evictionsCounted_adjustTtl {adjusted : Engine α × List (Event α)}
    (done : e.adjustTtl = .ok adjusted) : evictionsCounted adjusted.2 = 0 := by
  have reported : ∀ change learned, evictionsCounted (e.reports change learned) = 0 := by
    intro change learned
    refine evictionsCounted_eq_zero fun event member => ?_
    simp only [reports, List.mem_append, List.mem_map, List.mem_singleton] at member
    rcases member with ⟨pair, _, rfl⟩ | rfl <;> simp
  rw [adjustTtl_eq] at done
  split at done
  · cases done
    rfl
  · obtain ⟨change, _, learns⟩ := bind_eq_ok done
    obtain ⟨learned, _, rfl⟩ := map_eq_ok learns
    exact reported change learned

theorem evictionsCounted_adjustIfDue {adjusted : Engine α × List (Event α)}
    (done : e.adjustIfDue now = .ok adjusted) : evictionsCounted adjusted.2 = 0 := by
  unfold adjustIfDue at done
  split at done
  · cases done
    rfl
  · exact evictionsCounted_adjustTtl done

theorem evictionsCounted_suppress (a : Arrival α) :
    evictionsCounted (e.suppress a m).events = 0 := by
  unfold suppress
  rw [evictionsCounted_append, evictionsCounted_judgeCaller]
  rfl

theorem evictionsCounted_pass {a : Arrival α} {outcome : Outcome} {reply : Reply α Bool}
    (passed : e.pass now a m outcome = .ok reply) : evictionsCounted reply.events = 0 := by
  have judged : evictionsCounted
      (if outcome = .inserted then e.judgeCaller a m false else (e, [])).2 = 0 := by
    split
    · exact evictionsCounted_judgeCaller a false
    · rfl
  have untracked : evictionsCounted (if outcome = .dropped then
      [Event.saturated m.messageType] else [] : List (Event α)) = 0 := by
    split <;> rfl
  obtain ⟨result, adjusted, last⟩ := bind_eq_ok passed
  have found : evictionsCounted ((result.1.anomalies m).map (Event.anomalyFound e.tier)) = 0 :=
    evictionsCounted_eq_zero fun event member => by
      obtain ⟨anomaly, _, rfl⟩ := List.mem_map.1 member
      simp
  cases last
  simp only [evictionsCounted_append, judged, evictionsCounted_adjustIfDue adjusted, untracked,
    found]

theorem evictionsCounted_arrive {a : Arrival α} (arrived : e.arrive now m = .ok a) :
    evictionsCounted a.events = 0 := by
  obtain ⟨velocity, events⟩ := (arrive_follows arrived).measured
  rw [events]
  refine evictionsCounted_eq_zero fun event member => ?_
  obtain ⟨_, _, rfl⟩ := List.mem_map.1 member
  simp

theorem Receives.evictionsCounted {reply : Reply α Bool} (receives : e.Receives now m reply) :
    evictionsCounted reply.events =
      (((e.admission? now m).map Admission.evicted).getD []).length := by
  cases receives with
  | nameless named =>
    simp only [admission?, asked?, named, Bool.true_or, if_true, Option.bind_none]
    rfl
  | blocked named blocked arrived =>
    simp only [admission?, asked?, blocked, Bool.or_true, if_true, Option.bind_none]
    rw [block, evictionsCounted_append, evictionsCounted_arrive arrived]
    rfl
  | suppressed named unblocked arrived _ =>
    rw [admission?_eq named unblocked arrived, Reply.after]
    simp only [evictionsCounted_append, evictionsCounted_arrive arrived, evictions,
      evictionsCounted_map_evicted, evictionsCounted_suppress, Option.map_some, Option.getD_some]
    omega
  | passed named unblocked arrived _ passed =>
    rw [admission?_eq named unblocked arrived, Reply.after]
    simp only [evictionsCounted_append, evictionsCounted_arrive arrived, evictions,
      evictionsCounted_map_evicted, evictionsCounted_pass passed, Option.map_some, Option.getD_some]
    omega

theorem evictionsCounted_setTier (requested : String) :
    evictionsCounted (e.setTier now requested).events =
      (e.shrunk now (.serving requested)).2.length := by
  have unknown : evictionsCounted (Event.ofTierRequest requested : List (Event α)) = 0 := by
    unfold Event.ofTierRequest
    split <;> rfl
  have changed : ∀ old new capacity,
      evictionsCounted [(.tierChanged old new capacity : Event α)] = 0 := fun _ _ _ => rfl
  simp only [setTier_eq, retiered, evictionsCounted_append, unknown, evictionsCounted_map_evicted,
    changed, Nat.zero_add, Nat.add_zero]

/-- The evictions of a call are counted, and nothing else is. -/
theorem perform_evictionsCounted {call : Call} {reply : Reply α Answer}
    (performed : e.perform now call = .ok reply) :
    evictionsCounted reply.events = (Step.mk e now call reply).evicted.length := by
  cases call with
  | message m =>
    obtain ⟨answer, answered, rfl⟩ := perform_message performed
    exact (receive_receives answered).evictionsCounted
  | activity peer =>
    obtain rfl := Except.ok.inj performed
    rfl
  | cleanup =>
    obtain rfl := Except.ok.inj performed
    show evictionsCounted (if _ then _ else _) = 0
    split <;> rfl
  | setTier requested =>
    obtain rfl := Except.ok.inj performed
    exact evictionsCounted_setTier requested
  | close =>
    obtain rfl := Except.ok.inj performed
    show evictionsCounted (if _ then _ else _) = 0
    split <;> rfl

end Engine

/-- No entry is lost or stored twice along a run: what was inserted is stored, evicted or removed,
the kept length is the counted one and stays within the capacity, every eviction is counted, and
every entry is stored once, under a key that describes it. -/
theorem Run.balance {c : Config α} {opened : Nat} {past : List (Step α)} {e : Engine α}
    (run : Run c opened past e) :
    (past.map Step.inserted).sum =
        e.store.size + (past.flatMap Step.evicted).length + (past.map Step.removed).sum ∧
      e.store.size = e.store.counted ∧ e.store.counted ≤ e.store.capacity ∧
      evictionsCounted (past.flatMap fun step => step.reply.events) =
        (past.flatMap Step.evicted).length ∧
      (∀ key entry, e.store.get? key = some entry → key.Describes entry) ∧
      (∀ key entry, (key, entry) ∈ e.store.toList ↔ e.store.get? key = some entry) ∧
      (e.store.toList.map Prod.fst).Nodup := by
  obtain ⟨items, holds, _, fits, balance, counted, describes⟩ := run.invariant
    (P := fun past items => (past.map Step.inserted).sum =
        items.length + (past.flatMap Step.evicted).length + (past.map Step.removed).sum ∧
      evictionsCounted (past.flatMap fun step => step.reply.events) =
        (past.flatMap Step.evicted).length ∧
      ∀ item ∈ items, item.1.Describes item.2) ⟨rfl, rfl, by simp⟩ (by
    rintro step past items left ⟨balance, counted, describes⟩ performed accounts
    refine ⟨?_, ?_, ?_⟩
    · have moved := accounts.balance
      simp only [List.map_cons, List.sum_cons, List.flatMap_cons, List.length_append]
      omega
    · have more := Engine.perform_evictionsCounted performed
      simp only [List.flatMap_cons, evictionsCounted_append, List.length_append, counted, more]
    · intro item member
      rcases accounts.origin item member with ⟨stored, _⟩ | ⟨_, _, first | ⟨old, stored, same⟩⟩
      · exact describes item stored
      · exact first
      · exact (describes _ stored).congr same)
  have size := holds.size_eq
  refine ⟨?_, holds.counted_eq.symm, ?_, counted, ?_, ?_, holds.keys_nodup⟩
  · rw [size]
    exact balance
  · rw [holds.counted_eq, size]
    exact fits
  · intro key entry found
    exact describes (key, entry) ((holds.lookup key entry).1 found)
  · intro key entry
    exact holds.mem_toList

/-- Two messages for which there is room for one: the balance is two entries in, one of them out. -/
theorem balance_crowded : ∃ (past : List (Step Float)) (e : Engine Float),
    Run (crowdedConfig (some 1)) 0 past e ∧ past.length = 2 ∧ e.store.size = 1 ∧
      (past.map Step.inserted).sum =
        e.store.size + (past.flatMap Step.evicted).length + (past.map Step.removed).sum := by
  have usable : (crowdedConfig (some 1)).problem? = none := by decide +kernel
  let opened := (Engine.assemble (crowdedConfig (some 1)) (by decide) 0).engine
  let calls := [(0, Call.message ⟨"a", "block", "", .empty⟩),
    (1, .message ⟨"b", "block", "", .empty⟩)]
  have facts : (match opened.run calls with
      | .ok reply => decide (reply.engine.store.size = 1)
      | .error _ => false) = true := by
    decide +kernel
  cases ran : opened.run calls with
  | error => simp only [ran, Bool.false_eq_true] at facts
  | ok reply =>
    simp only [ran] at facts
    obtain ⟨past, run, requests, _⟩ := (Run.start (Engine.start_eq usable 0)).extend ran
    rw [List.append_nil] at run
    have length := congrArg List.length requests
    rw [List.length_map, List.length_reverse] at length
    exact ⟨past, reply.engine, run, length, of_decide_eq_true facts, run.balance.1⟩

end GossipGate
