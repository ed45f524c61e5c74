import GossipGate.Metrics.Samples
import GossipGate.Proofs.Adjustment

namespace GossipGate

variable {α : Type} [Scalar α]

/-- The reason of a suppression, where an event tells one. -/
def Event.suppression? : Event α → Option Suppression
  | .suppressed _ _ reason => some reason
  | _ => none

/-- The duplicate rate and the new TTL, where an event tells of an adjustment. -/
def Event.adjustment? : Event α → Option (α × TtlChange)
  | .ttlAdjusted _ rate _ change => some (rate, change)
  | _ => none

/-- An event of another kind. -/
def Event.Quiet (event : Event α) : Prop := event.suppression? = none ∧ event.adjustment? = none

/-- The reasons of the suppressions among some events, in order. -/
def suppressions (events : List (Event α)) : List Suppression := events.filterMap Event.suppression?

/-- The adjustments among some events, in order. -/
def adjustments (events : List (Event α)) : List (α × TtlChange) :=
  events.filterMap Event.adjustment?

section Lists

omit [Scalar α]

theorem suppressions_append (first second : List (Event α)) :
    suppressions (first ++ second) = suppressions first ++ suppressions second :=
  List.filterMap_append

theorem adjustments_append (first second : List (Event α)) :
    adjustments (first ++ second) = adjustments first ++ adjustments second :=
  List.filterMap_append

theorem reports_of_quiet {events : List (Event α)} (quiet : ∀ event ∈ events, event.Quiet) :
    suppressions events = [] ∧ adjustments events = [] :=
  ⟨List.filterMap_eq_nil_iff.2 fun event member => (quiet event member).1,
    List.filterMap_eq_nil_iff.2 fun event member => (quiet event member).2⟩

end Lists

namespace Engine

variable {e : Engine α} {now : Nat} {m : Message}

/-- The outcome of a message changes no record but that of its peer, and tells of that alone. -/
theorem judgeCaller_eq (a : Arrival α) (duplicate : Bool) :
    ∃ peers told, e.judgeCaller a m duplicate = ({ e with peers }, told) ∧
      ∀ event ∈ told, event.Quiet := by
  unfold judgeCaller
  split
  · have same := e.judge_fst m.peer duplicate
    refine ⟨_, (e.judge m.peer duplicate).2, Prod.ext same rfl, fun event member => ?_⟩
    unfold judge at member
    split at member
    · cases member
    · rcases List.mem_cons.1 member with rfl | listed
      · exact ⟨rfl, rfl⟩
      · split at listed
        · rw [List.mem_singleton.1 listed]
          exact ⟨rfl, rfl⟩
        · cases listed
  · exact ⟨e.peers, [], rfl, by simp⟩

theorem suppressions_reports (change : TtlChange) (learned : List (String × Traffic α)) :
    suppressions (e.reports change learned) = [] ∧
      adjustments (e.reports change learned) =
        [(Scalar.ratio e.duplicates e.seen, change)] := by
  have quiet : ∀ event ∈ learned.map (fun pair =>
      Event.typeTtlLearned e.tier pair.1 pair.2.duplicateRate pair.2.ttl), event.Quiet := by
    intro event member
    obtain ⟨pair, _, rfl⟩ := List.mem_map.1 member
    exact ⟨rfl, rfl⟩
  obtain ⟨none, unchanged⟩ := reports_of_quiet quiet
  unfold suppressions at none
  unfold adjustments at unchanged
  unfold reports suppressions adjustments
  rw [List.filterMap_append, List.filterMap_append, none, unchanged]
  exact ⟨rfl, rfl⟩

theorem suppressions_adjustTtl {result : Engine α × List (Event α)}
    (done : e.adjustTtl = .ok result) : suppressions result.2 = [] := by
  rcases adjustTtl_reports done with ⟨rfl, _⟩ | ⟨change, learned, _, _, told⟩
  · rfl
  · rw [told]
    exact (suppressions_reports change learned).1

theorem suppressions_adjustIfDue {result : Engine α × List (Event α)}
    (done : e.adjustIfDue now = .ok result) : suppressions result.2 = [] := by
  rcases adjustIfDue_cases done with ⟨_, rfl⟩ | ⟨_, adjusted⟩
  · rfl
  · exact suppressions_adjustTtl adjusted

/-- A new global TTL is told of, with the rate by the counts before it. It takes 100 messages. -/
def Retimes (e last : Engine α) (told : List (α × TtlChange)) : Prop :=
  told = [] ∧ last.ttlMillis = e.ttlMillis ∨
    ∃ change, 100 ≤ e.seen ∧ told = [(Scalar.ratio e.duplicates e.seen, change)] ∧
      last.ttlMillis = change.ttl.millisWord

theorem Retimes.congr {gate last : Engine α} {told : List (α × TtlChange)}
    (retimes : gate.Retimes last told) (ttlMillis : gate.ttlMillis = e.ttlMillis)
    (seen : gate.seen = e.seen) (duplicates : gate.duplicates = e.duplicates) :
    e.Retimes last told := by
  unfold Retimes at retimes ⊢
  rw [← ttlMillis, ← seen, ← duplicates]
  exact retimes

theorem Retimes.rate {last : Engine α} {told : List (α × TtlChange)} (retimes : e.Retimes last told)
    {rate : α} {change : TtlChange} (member : (rate, change) ∈ told) :
    100 ≤ e.seen ∧ rate = Scalar.ratio e.duplicates e.seen := by
  rcases retimes with ⟨rfl, _⟩ | ⟨own, many, rfl, _⟩
  · cases member
  · exact ⟨many, congrArg Prod.fst (List.mem_singleton.1 member)⟩

theorem adjustIfDue_retimes {result : Engine α × List (Event α)}
    (done : e.adjustIfDue now = .ok result) : e.Retimes result.1 (adjustments result.2) := by
  rcases adjustIfDue_cases done with ⟨_, rfl⟩ | ⟨_, adjusted⟩
  · exact Or.inl ⟨rfl, rfl⟩
  · rcases adjustTtl_reports adjusted with ⟨rfl, _⟩ | ⟨change, learned, many, adjusts, told⟩
    · exact Or.inl ⟨rfl, rfl⟩
    · refine Or.inr ⟨change, many, ?_, ?_⟩
      · rw [told]
        exact (suppressions_reports change learned).2
      · rw [adjusts.last_eq]

/-- Letting a message through changes nothing but the record of its peer, and the TTLs with the
counts where an adjustment is due. Only the adjustment is told of. -/
theorem pass_adjusts {a : Arrival α} {outcome : Outcome} {reply : Reply α Bool}
    (passed : e.pass now a m outcome = .ok reply) :
    ∃ peers result, ({ e with peers } : Engine α).adjustIfDue now = .ok result ∧
      reply.engine = result.1 ∧ suppressions reply.events = [] ∧
      adjustments reply.events = adjustments result.2 := by
  obtain ⟨result, adjusted, last⟩ := bind_eq_ok passed
  obtain ⟨peers, told, judged, quiet⟩ : ∃ peers told,
      (if outcome = .inserted then e.judgeCaller a m false else (e, [])) =
        (({ e with peers } : Engine α), told) ∧
        ∀ event ∈ told, event.Quiet := by
    split
    · exact judgeCaller_eq a false
    · exact ⟨e.peers, [], rfl, by simp⟩
  rw [judged] at adjusted last
  cases last
  have first := reports_of_quiet quiet
  have second : suppressions (if outcome = .dropped then [Event.saturated m.messageType] else
      [] : List (Event α)) = [] ∧ adjustments (if outcome = .dropped then
        [Event.saturated m.messageType] else [] : List (Event α)) = [] := by
    split <;> exact ⟨rfl, rfl⟩
  have last : suppressions ((result.1.anomalies m).map (Event.anomalyFound e.tier)) = [] ∧
      adjustments ((result.1.anomalies m).map (Event.anomalyFound e.tier)) = [] := by
    refine reports_of_quiet fun event member => ?_
    obtain ⟨_, _, rfl⟩ := List.mem_map.1 member
    exact ⟨rfl, rfl⟩
  refine ⟨peers, result, adjusted, rfl, ?_, ?_⟩
  · simp only [suppressions_append, first.1, second.1, suppressions_adjustIfDue adjusted, last.1,
      List.append_nil]
  · simp only [adjustments_append, first.2, second.2, last.2, List.nil_append, List.append_nil]

theorem suppress_reports (a : Arrival α) :
    suppressions (e.suppress a m).events = [.duplicate] ∧
      adjustments (e.suppress a m).events = [] := by
  obtain ⟨peers, told, judged, quiet⟩ :=
    judgeCaller_eq (e := { e with
      duplicates := e.duplicates + 1
      traffic := e.traffic.modify m.messageType Traffic.countDuplicate }) (m := m) a true
  have first := reports_of_quiet quiet
  unfold suppress
  simp only [judged, suppressions_append, adjustments_append, first.1, first.2]
  exact ⟨rfl, rfl⟩

/-- What comes before the decision on a message. -/
theorem arrive_reports {a : Arrival α} (arrived : e.arrive now m = .ok a)
    (admission : Admission α) : suppressions (a.events ++ a.engine.evictions admission) = [] ∧
      adjustments (a.events ++ a.engine.evictions admission) = [] := by
  obtain ⟨velocity, events⟩ := (arrive_follows arrived).measured
  rw [events]
  refine reports_of_quiet fun event member => ?_
  rcases List.mem_append.1 member with measured | evicted
  · obtain ⟨_, _, rfl⟩ := List.mem_map.1 measured
    exact ⟨rfl, rfl⟩
  · obtain ⟨_, _, rfl⟩ := List.mem_map.1 evicted
    exact ⟨rfl, rfl⟩

/-- A message tells of one suppression where it is suppressed, and of none where it passes. A
blacklisted sender has all its messages suppressed for that reason. -/
theorem Receives.suppressions {reply : Reply α Bool} (receives : e.Receives now m reply) :
    suppressions reply.events =
        (if reply.value then [if e.blocks m then .blacklisted else .duplicate] else []) ∧
      (reply.value && e.blocks m) = (!m.hash.isEmpty && e.blocks m) := by
  cases receives with
  | nameless named =>
    simp only [named, Bool.false_eq_true, if_false, Bool.not_true, Bool.false_and, and_true]
    rfl
  | @blocked arrival named blocked arrived =>
    have told := (arrive_reports arrived ⟨e.store, .dropped, []⟩).1
    rw [evictions, List.map_nil, List.append_nil] at told
    simp only [named, blocked, if_true, block, suppressions_append, told, Bool.not_false,
      Bool.and_self, and_true]
    rfl
  | suppressed named unblocked arrived duplicate =>
    simp only [unblocked, Bool.false_eq_true, if_false, Reply.after, suppress_value, if_true,
      suppressions_append, arrive_reports arrived, suppress_reports, List.nil_append,
      Bool.and_false, and_self]
  | passed named unblocked arrived other passed =>
    obtain ⟨_, _, _, _, told, _⟩ := pass_adjusts passed
    simp only [unblocked, Bool.false_eq_true, if_false, Reply.after, pass_value passed,
      suppressions_append, arrive_reports arrived, told, List.nil_append, Bool.and_false, and_self]

end Engine

end GossipGate
