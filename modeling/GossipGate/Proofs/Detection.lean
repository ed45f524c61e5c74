import GossipGate.Proofs.Determinism
import GossipGate.Proofs.UnwatchedGate

namespace GossipGate

variable {α : Type} [Scalar α] {c : Config α} {opened : Nat} {past : List (Step α)} {e : Engine α}
  {x : α}

/-- A run of a gate that does not look for anomalies. -/
inductive UnwatchedRun (c : Config α) (opened : Nat) : List (Step α) → Engine α → Prop
  | start {reply} : Engine.start c opened = .ok reply → UnwatchedRun c opened [] reply.engine
  | call {past e gate now call reply} : UnwatchedRun c opened past e → e.Reordered gate →
      gate.performUnwatched now call = .ok reply →
      UnwatchedRun c opened (⟨gate, now, call, reply⟩ :: past) reply.engine

def Step.withThreshold (x : α) (step : Step α) : Step α :=
  { step with before := step.before.withThreshold x, reply := step.reply.withThreshold x }

/-- A call with everything that it does but report anomalies, by gates whose threshold for them does
not matter. -/
def Step.calm (x : α) (step : Step α) : Step α :=
  { step with before := step.before.withThreshold x, reply := step.reply.calm.withThreshold x }

theorem Step.evicted_calm (step : Step α) : (step.calm x).evicted = step.evicted := by
  obtain ⟨before, now, call, reply⟩ := step
  cases call with
  | message m => simp only [calm, evicted, admission?, Engine.admission?_withThreshold]
  | setTier requested => simp only [calm, evicted, Engine.shrunk_withThreshold]
  | activity | cleanup | close => rfl

/-- What a call shows but for anomalies. -/
theorem Step.outcome_calm (step : Step α) : (step.calm x).outcome =
    (step.outcome.1, calmEvents step.outcome.2.1, step.outcome.2.2) := by
  unfold outcome
  rw [evicted_calm]
  rfl

namespace Engine

omit [Scalar α] in
theorem Reordered.withThreshold {gate : Engine α} (reordered : e.Reordered gate) (x : α) :
    (e.withThreshold x).Reordered (gate.withThreshold x) := by
  obtain ⟨store, same, rfl⟩ := reordered
  exact ⟨store, same, rfl⟩

theorem start_withThreshold {reply : Reply α Unit} (started : Engine.start c opened = .ok reply)
    (accepted : ({ c with anomalyThreshold := x } : Config α).problem? = none) :
    Engine.start { c with anomalyThreshold := x } opened = .ok (reply.withThreshold x) := by
  obtain ⟨ordered, rfl⟩ := start_assemble started
  exact start_eq accepted opened

end Engine

/-- What is the same of two results, where one of them is there so is the other. -/
theorem map_eq_map_ok {ε β γ : Type} {f : β → γ} {first second : Except ε β} {value : β}
    (same : first.map f = second.map f) (own : first = .ok value) :
    ∃ other, second = .ok other ∧ f other = f value := by
  subst own
  obtain ⟨other, found, image⟩ := map_eq_ok same.symm
  exact ⟨other, found, image⟩

/-- The steps of a run that also happen where nobody looks for anomalies. -/
theorem Run.unwatched (run : Run c opened past e) (x : α) : ∃ others,
    UnwatchedRun c opened others e ∧ others.map (Step.calm x) = past.map (Step.calm x) := by
  induction run with
  | start started => exact ⟨[], .start started, rfl⟩
  | @call past e gate now call reply _ reordered performed ih =>
    obtain ⟨others, other, same⟩ := ih
    obtain ⟨quiet, again, calm⟩ := map_eq_map_ok (gate.perform_calm call) performed
    have engine : quiet.calm.engine = reply.calm.engine := congrArg Reply.engine calm
    have left : UnwatchedRun c opened (⟨gate, now, call, quiet⟩ :: others) quiet.calm.engine :=
      other.call reordered again
    refine ⟨⟨gate, now, call, quiet⟩ :: others, engine ▸ left, ?_⟩
    simp only [List.map_cons, same, Step.calm, calm]

theorem UnwatchedRun.watched (run : UnwatchedRun c opened past e) (x : α) : ∃ others,
    Run c opened others e ∧ others.map (Step.calm x) = past.map (Step.calm x) := by
  induction run with
  | start started => exact ⟨[], .start started, rfl⟩
  | @call past e gate now call reply _ reordered performed ih =>
    obtain ⟨others, other, same⟩ := ih
    obtain ⟨loud, again, calm⟩ := map_eq_map_ok (gate.perform_calm call).symm performed
    have engine : loud.calm.engine = reply.calm.engine := congrArg Reply.engine calm
    have left : Run c opened (⟨gate, now, call, loud⟩ :: others) loud.calm.engine :=
      other.call reordered again
    refine ⟨⟨gate, now, call, loud⟩ :: others, engine ▸ left, ?_⟩
    simp only [List.map_cons, same, Step.calm, calm]

theorem UnwatchedRun.withThreshold (run : UnwatchedRun c opened past e)
    (accepted : ({ c with anomalyThreshold := x } : Config α).problem? = none) :
    UnwatchedRun { c with anomalyThreshold := x } opened (past.map (Step.withThreshold x))
      (e.withThreshold x) := by
  induction run with
  | start started => exact .start (Engine.start_withThreshold started accepted)
  | call _ reordered performed ih =>
    refine ih.call (reordered.withThreshold x) ?_
    rw [Engine.performUnwatched_withThreshold, performed]
    rfl

omit [Scalar α] in
theorem Step.calm_withThreshold (x y : α) (steps : List (Step α)) :
    (steps.map (Step.withThreshold y)).map (Step.calm x) = steps.map (Step.calm x) := by
  rw [List.map_map]
  rfl

omit [Scalar α] in
theorem Step.calm_requests {others : List (Step α)}
    (same : others.map (Step.calm x) = past.map (Step.calm x)) :
    others.map Step.request = past.map Step.request := by
  have read := congrArg (List.map Step.request) same
  rw [List.map_map, List.map_map] at read
  exact read

theorem Step.calm_outcomes {others : List (Step α)}
    (same : others.map (Step.calm x) = past.map (Step.calm x)) :
    others.map (fun step => (step.calm x).outcome) =
      past.map fun step => (step.calm x).outcome := by
  have shown := congrArg (List.map Step.outcome) same
  rw [List.map_map, List.map_map] at shown
  exact shown

/-- What calls show but for anomalies is a part of what they show. -/
theorem Step.outcomes_calm (steps : List (Step α)) :
    steps.map (fun step => (step.calm x).outcome) = (steps.map Step.outcome).map fun outcome =>
      (outcome.1, calmEvents outcome.2.1, outcome.2.2) := by
  rw [List.map_map]
  exact List.map_congr_left fun step _ => step.outcome_calm

/-- The same run of a gate that does not look for anomalies and has another threshold for them. -/
theorem Run.retuned (run : Run c opened past e)
    (accepted : ({ c with anomalyThreshold := x } : Config α).problem? = none) :
    ∃ others, UnwatchedRun { c with anomalyThreshold := x } opened others (e.withThreshold x) ∧
      others.map (Step.calm x) = past.map (Step.calm x) := by
  obtain ⟨others, other, same⟩ := run.unwatched x
  refine ⟨_, other.withThreshold accepted, ?_⟩
  rw [Step.calm_withThreshold, same]

/-- Whatever has another threshold for anomalies and does not look for them goes the way of the
first gate but for what is reported. -/
theorem Run.determined_unwatched [RoundedScalar α] [OrderedScalar α] {others : List (Step α)}
    {f : Engine α} (run : Run c opened past e)
    (other : UnwatchedRun { c with anomalyThreshold := x } opened others f)
    (asked : others.map Step.request = past.map Step.request) (decays : Scalar.ExpDecays α)
    (clocks : ∀ step ∈ past, step.now < UInt64.size)
    (counts : (∀ x : α, ∃ v, Scalar.value? x = some v) ∨ past.length < UInt64.size) :
    others.map (fun step => (step.calm x).outcome) = past.map (fun step => (step.calm x).outcome) ∧
      (e.withThreshold x).Alike (f.withThreshold x) := by
  -- The other run is brought back to the settings of the first one.
  have back : UnwatchedRun c opened (others.map (Step.withThreshold c.anomalyThreshold))
      (f.withThreshold c.anomalyThreshold) :=
    other.withThreshold (x := c.anomalyThreshold) run.start_usable
  obtain ⟨again, reached, same⟩ := back.watched x
  rw [Step.calm_withThreshold] at same
  have requests := (Step.calm_requests same).trans asked
  obtain ⟨outcomes, store, alike, apart⟩ := run.determined reached requests decays clocks counts
  refine ⟨?_, store, alike, congrArg (Engine.withThreshold x) apart⟩
  rw [← Step.calm_outcomes same, Step.outcomes_calm, Step.outcomes_calm, outcomes]

/-- The detection of anomalies reports and does nothing else. With another threshold, or where
nobody looks, the same calls have the same answers, other events and evictions and leave the same
gate after each of them, faults included. -/
theorem Run.anomalies_advisory [RoundedScalar α] [OrderedScalar α] (run : Run c opened past e)
    (accepted : ({ c with anomalyThreshold := x } : Config α).problem? = none) :
    (∃ others, Run { c with anomalyThreshold := x } opened others (e.withThreshold x) ∧
        others.map (Step.calm x) = past.map (Step.calm x)) ∧
      (∃ others, UnwatchedRun { c with anomalyThreshold := x } opened others (e.withThreshold x) ∧
        others.map (Step.calm x) = past.map (Step.calm x)) ∧
      (∀ (gate : Engine α) now call,
        ((gate.withThreshold x).perform now call).map Reply.calm =
            (gate.perform now call).map (fun r => (r.withThreshold x).calm) ∧
          ((gate.withThreshold x).performUnwatched now call).map Reply.calm =
            (gate.perform now call).map fun r => (r.withThreshold x).calm) ∧
      ∀ others f, Run { c with anomalyThreshold := x } opened others f ∨
          UnwatchedRun { c with anomalyThreshold := x } opened others f →
        others.map Step.request = past.map Step.request → Scalar.ExpDecays α →
        (∀ step ∈ past, step.now < UInt64.size) →
        ((∀ x : α, ∃ v, Scalar.value? x = some v) ∨ past.length < UInt64.size) →
        others.map (fun step => (step.calm x).outcome) =
            past.map (fun step => (step.calm x).outcome) ∧
          (e.withThreshold x).Alike (f.withThreshold x) := by
  obtain ⟨quiet, unwatched, same⟩ := run.retuned accepted
  obtain ⟨loud, watched, alsoSame⟩ := unwatched.watched x
  refine ⟨⟨loud, watched, alsoSame.trans same⟩, ⟨quiet, unwatched, same⟩, ?_, ?_⟩
  · intro gate now call
    have unreported := gate.performUnwatched_calm x now call
    exact ⟨((gate.withThreshold x).perform_calm call).trans unreported, unreported⟩
  · intro others f other asked decays clocks counts
    rcases other with other | other
    · obtain ⟨silent, stripped, calm⟩ := other.unwatched x
      have requests := (Step.calm_requests calm).trans asked
      obtain ⟨outcomes, alike⟩ :=
        run.determined_unwatched stripped requests decays clocks counts
      exact ⟨(Step.calm_outcomes calm).symm.trans outcomes, alike⟩
    · exact run.determined_unwatched other asked decays clocks counts

/-- The second of two messages of one type comes at the mean velocity, which is above half of it but
not above three times it. -/
theorem anomalies_advisory_sensitive : ∃ (c : Config Rat) (x : Rat) (past others : List (Step Rat))
    (e f : Engine Rat), @Run Rat decayingScalar c 0 past e ∧
      @Config.problem? Rat decayingScalar { c with anomalyThreshold := x } = none ∧
      @Run Rat decayingScalar { c with anomalyThreshold := x } 0 others f ∧
      others.map Step.request = past.map Step.request ∧
      past.countP (fun step => step.reply.events.any Event.isAnomaly) = 0 ∧
      others.countP (fun step => step.reply.events.any Event.isAnomaly) = 1 ∧
      others.map (fun step => @Step.outcome Rat decayingScalar (step.calm x)) =
        past.map (fun step => @Step.outcome Rat decayingScalar (step.calm x)) ∧
      (e.withThreshold x).Alike (f.withThreshold x) := by
  let _ := decayingScalar
  let _ := roundedScalar_exact fun q => 1 / (1 - q)
  have _ := orderedScalar_exact fun q => 1 / (1 - q)
  let c : Config Rat := .ofTier .enterprise
  have usable : c.problem? = none := by decide +kernel
  have accepted : ({ c with anomalyThreshold := 1 / 2 } : Config Rat).problem? = none := by
    decide +kernel
  let calls : List (Nat × Call) := [(0, .message ⟨"a", "block", "p", .empty⟩),
    (1000, .message ⟨"b", "block", "p", .empty⟩)]
  have traced : ((Engine.assemble c (by decide) 0).engine.trace calls).toOption.any (fun past =>
      decide (past.countP (fun step => step.reply.events.any Event.isAnomaly) = 0)) = true := by
    decide +kernel
  have alsoTraced : ((Engine.assemble { c with anomalyThreshold := 1 / 2 } (by decide)
      0).engine.trace calls).toOption.any (fun past =>
        decide (past.countP (fun step => step.reply.events.any Event.isAnomaly) = 1)) = true := by
    decide +kernel
  obtain ⟨past, e, run, requests, facts⟩ := Run.of_trace usable traced
  obtain ⟨others, f, other, alsoRequests, alsoFacts⟩ := Run.of_trace accepted alsoTraced
  have asked := alsoRequests.trans requests.symm
  have clocks : ∀ step ∈ past, step.now < UInt64.size :=
    Step.forall_now (P := fun reading => reading < UInt64.size) requests (by decide)
  obtain ⟨outcomes, alike⟩ := (run.anomalies_advisory accepted).2.2.2 others f (Or.inl other) asked
    expDecays_decaying clocks (Or.inl fun x => ⟨x, rfl⟩)
  exact ⟨c, 1 / 2, past, others, e, f, run, accepted, other, asked, of_decide_eq_true facts,
    of_decide_eq_true alsoFacts, outcomes, alike⟩

end GossipGate
