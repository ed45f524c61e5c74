import GossipGate.Proofs.Counters
import GossipGate.Proofs.MessageEffects

namespace GossipGate

variable {α : Type} [Scalar α] {e : Engine α} {now : Nat} {m : Message}

namespace Engine

/-- Nothing but the counts of messages tells two gates apart as far as TTLs go. A type may be new
in the second one. -/
structure Steady (e last : Engine α) (named suppressed : Nat) : Prop where
  ttlMillis : last.ttlMillis = e.ttlMillis
  seen : last.seen = e.seen + named
  duplicates : last.duplicates = e.duplicates + suppressed
  types : ∀ messageType t, e.traffic.get? messageType = some t →
    ∃ after, last.traffic.get? messageType = some after ∧ after.ttl = t.ttl ∧
      after.adapted = t.adapted

omit [Scalar α] in
theorem Steady.refl (e : Engine α) : e.Steady e 0 0 :=
  ⟨rfl, rfl, rfl, fun _ t stored => ⟨t, stored, rfl, rfl⟩⟩

omit [Scalar α] in
theorem Steady.trans {between last : Engine α} {named suppressed more again : Nat}
    (before : e.Steady between named suppressed) (after : between.Steady last more again) :
    e.Steady last (named + more) (suppressed + again) := by
  refine ⟨after.ttlMillis.trans before.ttlMillis, ?_, ?_, fun messageType t stored => ?_⟩
  · rw [after.seen, before.seen, Nat.add_assoc]
  · rw [after.duplicates, before.duplicates, Nat.add_assoc]
  · obtain ⟨middle, found, ttl, adapted⟩ := before.types messageType t stored
    obtain ⟨final, foundLast, sameTtl, sameFlag⟩ := after.types messageType middle found
    exact ⟨final, foundLast, sameTtl.trans ttl, sameFlag.trans adapted⟩

omit [Scalar α] in
theorem Steady.of_withStore {last : Engine α} {store : Store α} {named suppressed : Nat}
    (steady : (e.withStore store).Steady last named suppressed) :
    e.Steady last named suppressed :=
  ⟨steady.ttlMillis, steady.seen, steady.duplicates, steady.types⟩

theorem Hears.steady {repeated : Nat} {heard : Engine α} (hears : e.Hears m repeated heard)
    (duplicates : heard.duplicates = e.duplicates + repeated) : e.Steady heard 1 repeated :=
  ⟨hears.ttlMillis, hears.seen, duplicates, fun _ _ stored => hears.known stored⟩

/-- A message that causes no adjustment is counted, and nothing else. -/
theorem Concludes.steady {reply : Reply α Bool} (concludes : e.Concludes now m reply)
    (unadjusted : adjustments reply.events = []) :
    e.Steady reply.engine (if m.hash.isEmpty then 0 else 1) (if reply.value then 1 else 0) := by
  cases concludes with
  | nameless named same =>
    rw [named, same]
    exact Steady.refl e
  | suppressed named value hears duplicates =>
    rw [named, value]
    exact hears.steady duplicates
  | early named value _ hears duplicates | sparse named value _ _ hears duplicates =>
    rw [named, value]
    exact hears.steady duplicates
  | adjusted _ _ _ _ _ _ _ _ told =>
    rw [told] at unadjusted
    cases unadjusted

/-- An interval ends exactly where a message passes after it. -/
theorem Concludes.lastAdjust {reply : Reply α Bool} (concludes : e.Concludes now m reply)
    (positive : 0 < e.tuning.adjustEvery) :
    (reply.engine.lastAdjust ≠ e.lastAdjust ↔ m.hash.isEmpty = false ∧ reply.value = false ∧
      e.tuning.adjustEvery ≤ now - e.lastAdjust) ∧
    (reply.engine.lastAdjust ≠ e.lastAdjust → reply.engine.lastAdjust = now) := by
  cases concludes with
  | nameless named same => simp [same, named]
  | suppressed named value _ _ last => simp [last, value]
  | early named value early _ _ last => simp [last, early]
  | sparse named value elapsed _ _ _ last =>
    rw [last]
    exact ⟨⟨fun _ => ⟨named, value, elapsed⟩, fun _ => by omega⟩, fun _ => rfl⟩
  | adjusted named value elapsed _ _ _ opened adjusts =>
    have last : reply.engine.lastAdjust = now := by
      rw [adjusts.last_eq]
      exact opened
    rw [last]
    exact ⟨⟨fun _ => ⟨named, value, elapsed⟩, fun _ => by omega⟩, fun _ => rfl⟩

end Engine

namespace Step

/-- Whether a call starts a new interval between adjustments. No interval is empty, so that the new
one has another start. -/
def startsInterval (step : Step α) : Bool :=
  step.reply.engine.lastAdjust != step.before.lastAdjust

/-- Whether a call lets a message with a hash through. -/
def isPassed (step : Step α) : Bool := step.isNamed && step.reply.value = .verdict false

/-- What a call does to the interval between adjustments. -/
structure Paces (step : Step α) : Prop where
  starts_iff : step.startsInterval = true ↔ step.isPassed = true ∧
    step.before.tuning.adjustEvery ≤ step.now - step.before.lastAdjust
  starts : step.startsInterval = true → step.reply.engine.lastAdjust = step.now
  steady : step.startsInterval = false ∨ step.before.seen + 1 < 100 →
    step.before.Steady step.reply.engine (if step.isNamed then 1 else 0)
      (if step.isSuppressed then 1 else 0)

end Step

namespace Engine

/-- An adjustment takes a message that passes after an interval, and 100 messages. -/
theorem Concludes.adjustments_eq_nil {reply : Reply α Bool} (concludes : e.Concludes now m reply)
    (positive : 0 < e.tuning.adjustEvery)
    (quiet : reply.engine.lastAdjust = e.lastAdjust ∨ e.seen + 1 < 100) :
    adjustments reply.events = [] := by
  cases concludes with
  | nameless _ same =>
    rw [same]
    rfl
  | suppressed _ _ _ _ _ unadjusted | early _ _ _ _ _ _ unadjusted
  | sparse _ _ _ _ _ _ _ unadjusted => exact unadjusted
  | adjusted _ _ elapsed many _ _ opened adjusts _ =>
    have last : reply.engine.lastAdjust = now := by
      rw [adjusts.last_eq]
      exact opened
    omega

theorem perform_paces {call : Call} (positive : 0 < e.tuning.adjustEvery)
    {reply : Reply α Answer} (performed : e.perform now call = .ok reply) :
    Step.Paces ⟨e, now, call, reply⟩ := by
  rcases perform_concludes performed with ⟨m, answer, rfl, rfl, concludes⟩ | upkeeps
  · obtain ⟨changes_iff, changes⟩ := concludes.lastAdjust positive
    let step : Step α := ⟨e, now, .message m, answer.map .verdict⟩
    have starts_iff : step.startsInterval = true ↔ answer.engine.lastAdjust ≠ e.lastAdjust :=
      bne_iff_ne
    have passed_iff : step.isPassed = true ↔ m.hash.isEmpty = false ∧ answer.value = false := by
      simp [step, Step.isPassed, Step.isNamed, Reply.map]
    refine ⟨?_, fun starts => changes (starts_iff.1 starts), fun quiet => ?_⟩
    · rw [starts_iff, passed_iff, changes_iff, and_assoc]
    · have unadjusted := concludes.adjustments_eq_nil positive (quiet.imp_left fun same =>
        not_not.1 fun changed => absurd (starts_iff.2 changed) (Bool.eq_false_iff.1 same))
      rw [Step.isNamed_message, Step.isSuppressed_message]
      exact concludes.steady unadjusted
  · have kept : Step.startsInterval ⟨e, now, call, reply⟩ = false := by
      simp [Step.startsInterval, upkeeps.lastAdjust]
    have unnamed := Step.isNamed_other upkeeps.other e now reply
    have unsuppressed : Step.isSuppressed ⟨e, now, call, reply⟩ = false :=
      decide_eq_false upkeeps.unsuppressed
    refine ⟨?_, fun starts => ?_, fun _ => ?_⟩
    · simp [kept, Step.isPassed, unnamed]
    · rw [kept] at starts
      cases starts
    · rw [unnamed, unsuppressed]
      refine ⟨upkeeps.ttlMillis, upkeeps.seen, upkeeps.duplicates, fun messageType t stored =>
        ⟨t, ?_, rfl, rfl⟩⟩
      show reply.engine.traffic.get? messageType = some t
      rw [upkeeps.traffic]
      exact stored

end Engine

variable {c : Config α} {opened : Nat} {past later : List (Step α)} {last : Engine α}

/-- The interval between adjustments stays as it is configured, in a word of milliseconds. -/
theorem Run.adjustEvery (run : Run c opened past e) :
    e.tuning.adjustEvery = c.adjustEvery.millisWord := by
  refine run.keeps_always (fun e => e.tuning.adjustEvery = _) ?_ ?_ (fun _ _ same => same) ?_
  · intro reply started
    obtain ⟨ordered, rfl⟩ := Engine.start_assemble started
    rfl
  · rintro e _ ⟨store, _, rfl⟩ same
    exact same
  · intro now e last moves same
    rw [moves.tuning]
    exact same

theorem Run.adjustEvery_reordered (run : Run c opened past e) {gate : Engine α}
    (reordered : e.Reordered gate) : gate.tuning.adjustEvery = c.adjustEvery.millisWord := by
  obtain ⟨store, _, rfl⟩ := reordered
  exact run.adjustEvery

/-- Each call of a run sets the interval as it does from the gate before it. -/
theorem Run.paces (run : Run c opened past e) (positive : 0 < c.adjustEvery.millisWord) :
    ∀ step ∈ past, step.Paces ∧ step.before.tuning.adjustEvery = c.adjustEvery.millisWord := by
  induction run with
  | start => simp
  | call run reordered performed ih =>
    have same := run.adjustEvery_reordered reordered
    exact List.forall_mem_cons.2 ⟨⟨Engine.perform_paces (same ▸ positive) performed, same⟩, ih⟩

/-- Intervals follow one another, and the latest one started last. -/
theorem Run.intervals_apart (run : Run c opened past e)
    (positive : 0 < c.adjustEvery.millisWord) :
    (∀ step ∈ past, step.startsInterval = true → step.now ≤ e.lastAdjust) ∧
      past.Pairwise fun later earlier => later.startsInterval = true →
        earlier.startsInterval = true →
          earlier.now + c.adjustEvery.millisWord ≤ later.now := by
  -- The start that the gate keeps is the latest one, although clock readings may go back.
  induction run with
  | start => simp
  | @call past e gate now call reply run reordered performed ih =>
    obtain ⟨latest, apart⟩ := ih
    have interval := run.adjustEvery_reordered reordered
    have paces := Engine.perform_paces (interval ▸ positive) performed
    have same : gate.lastAdjust = e.lastAdjust := by
      obtain ⟨store, _, rfl⟩ := reordered
      rfl
    have far : Step.startsInterval ⟨gate, now, call, reply⟩ = true →
        e.lastAdjust + c.adjustEvery.millisWord ≤ now := by
      intro starts
      have elapsed : gate.tuning.adjustEvery ≤ now - gate.lastAdjust :=
        (paces.starts_iff.1 starts).2
      omega
    refine ⟨List.forall_mem_cons.2 ⟨fun starts => (paces.starts starts).ge, ?_⟩,
      List.pairwise_cons.2 ⟨fun earlier member starts started => ?_, apart⟩⟩
    · intro step member started
      have before := latest step member started
      show step.now ≤ reply.engine.lastAdjust
      cases starts : Step.startsInterval ⟨gate, now, call, reply⟩ with
      | true =>
        have moved : reply.engine.lastAdjust = now := paces.starts starts
        have passed := far starts
        omega
      | false =>
        have kept : reply.engine.lastAdjust = gate.lastAdjust := by
          simpa [Step.startsInterval] using starts
        omega
    · have before := latest earlier member started
      have passed := far starts
      show earlier.now + _ ≤ now
      omega

/-- Calls that start no interval, or start one with too few messages for an adjustment, change only
the counts. -/
theorem Run.steady (run : Run c opened past e) (positive : 0 < c.adjustEvery.millisWord)
    (continues : e.Continues later last)
    (quiet : ∀ step ∈ later, step.startsInterval = false ∨ step.before.seen + 1 < 100) :
    e.Steady last (later.countP Step.isNamed) (later.countP Step.isSuppressed) := by
  induction continues with
  | here => exact .refl e
  | call continues reordered performed ih =>
    obtain ⟨own, others⟩ := List.forall_mem_cons.1 quiet
    have same := (run.continues continues).adjustEvery_reordered reordered
    have paces := Engine.perform_paces (same ▸ positive) performed
    obtain ⟨store, _, rfl⟩ := reordered
    rw [List.countP_cons, List.countP_cons]
    exact (ih others).trans ((paces.steady own).of_withStore)

/-- The TTL is adjusted at most once in each interval, whatever the clock reads. Two calls that
start an interval lie that far apart, the later one later; only a message that passes starts one,
once the interval is over; and in between, and where an interval starts with fewer than 100
messages, nothing changes but the counts that calls add to. -/
theorem Run.intervals (run : Run c opened past e) (whole : 0 < c.adjustEvery.millis)
    (short : c.adjustEvery.millis < UInt64.size) :
    past.Pairwise (fun later earlier => later.startsInterval = true →
        earlier.startsInterval = true → earlier.now + c.adjustEvery.millis ≤ later.now) ∧
      (∀ step ∈ past, step.startsInterval = true ↔ step.isPassed = true ∧
        c.adjustEvery.millis ≤ step.now - step.before.lastAdjust) ∧
      ∀ later last, e.Continues later last →
        (∀ step ∈ later, step.startsInterval = false ∨ step.before.seen + 1 < 100) →
          e.Steady last (later.countP Step.isNamed) (later.countP Step.isSuppressed) := by
  have word : c.adjustEvery.millisWord = c.adjustEvery.millis := Nat.mod_eq_of_lt short
  have positive : 0 < c.adjustEvery.millisWord := word ▸ whole
  refine ⟨word ▸ (run.intervals_apart positive).2, fun step member => ?_,
    fun _ _ continues quiet => run.steady positive continues quiet⟩
  obtain ⟨paces, same⟩ := run.paces positive step member
  rw [paces.starts_iff, same, word]

/-- Four messages with a clock that goes backwards in between. -/
def pacedCalls : List (Nat × Call) :=
  [(60000, .message ⟨"a", "t", "", .empty⟩), (119999, .message ⟨"b", "t", "", .empty⟩),
    (100, .message ⟨"c", "t", "", .empty⟩), (120000, .message ⟨"d", "t", "", .empty⟩)]

/-- The first and the last of them start an interval. -/
theorem intervals_paced : ∃ (past : List (Step Float)) (e : Engine Float),
    Run (crowdedConfig (some 1)) 0 past e ∧ 0 < (crowdedConfig (some 1)).adjustEvery.millis ∧
      (crowdedConfig (some 1)).adjustEvery.millis < UInt64.size ∧
      past.map Step.now = [120000, 100, 119999, 60000] ∧
      past.map Step.startsInterval = [true, false, false, true] ∧
      past.Pairwise fun later earlier => later.startsInterval = true →
        earlier.startsInterval = true →
          earlier.now + (crowdedConfig (some 1)).adjustEvery.millis ≤ later.now := by
  have usable : (crowdedConfig (some 1)).problem? = none := by decide +kernel
  have traced : ((Engine.assemble (crowdedConfig (some 1)) (by decide) 0).engine.trace
      pacedCalls).toOption.any
        (fun past => past.map Step.startsInterval == [true, false, false, true]) = true := by
    decide +kernel
  obtain ⟨past, e, run, requests, starts⟩ := Run.of_trace usable traced
  have whole : 0 < (crowdedConfig (some 1)).adjustEvery.millis := by decide +kernel
  have short : (crowdedConfig (some 1)).adjustEvery.millis < UInt64.size := by decide +kernel
  have clock : past.map Step.now = [120000, 100, 119999, 60000] := by
    have readings := congrArg (List.map Prod.fst) requests
    rw [List.map_map] at readings
    exact readings
  exact ⟨past, e, run, whole, short, clock, by simpa using starts,
    (run.intervals whole short).1⟩

end GossipGate
