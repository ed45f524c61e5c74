import GossipGate.SeenFilter
import GossipGate.Proofs.FreeTier
import GossipGate.Proofs.GlobalTtl
import GossipGate.Proofs.Residence
import GossipGate.Proofs.Verdict

namespace GossipGate

variable {α : Type} [Scalar α] {past : List (Step α)} {e : Engine α} {now : Nat}

/-- What a filter asks of its gate. -/
def Call.OfFilter (call : Call) : Prop :=
  call = .cleanup ∨ ∃ hash, call = .message (SeenFilter.message hash)

theorem Call.OfFilter.untiered {call : Call} (asks : call.OfFilter) (requested : String) :
    call ≠ .setTier requested := by
  rcases asks with rfl | ⟨hash, rfl⟩ <;> simp

theorem Call.OfFilter.stays {call : Call} (asks : call.OfFilter) (tier : Tier) :
    call.Stays tier := by
  rcases asks with rfl | ⟨hash, rfl⟩ <;> trivial

namespace SeenFilter

/-- The key under which a filter keeps a hash. -/
def key (hash : String) : Key := .typed "legacy" "unknown" hash

/-- A hash was passed to a filter, at most some milliseconds ago. -/
def SeenWithin (past : List (Step α)) (now : Nat) (hash : String) (millis : Nat) : Prop :=
  ∃ step ∈ past, step.call = .message (message hash) ∧ now - step.now ≤ millis

/-- A hash is kept, and the latest call with it lies between the TTL that the filter was made with
and the one in force. -/
def Drifted (ttl : Duration) (past : List (Step α)) (now : Nat) (hash : String) : Prop :=
  KeptSince (key hash) past ∧ ∃ last, lastAsked (key hash) past = some last ∧
    min ttl.millis (ttlInForce ttl past).millisWord < now - last ∧
    now - last ≤ max ttl.millis (ttlInForce ttl past).millisWord

section Settings

variable (capacity : UInt64) (ttl : Duration)

theorem config_tier : (config capacity ttl : Config α).tier = .free := by
  unfold config
  split <;> split <;> rfl

theorem config_networks : (config capacity ttl : Config α).networks = [] := by
  unfold config
  split <;> split <;> rfl

theorem config_effectiveBaseTtl (nonzero : ttl.isZero = false) :
    (config capacity ttl : Config α).effectiveBaseTtl = ttl := by
  unfold config
  rw [if_neg (by simp [nonzero])]
  rfl

end Settings

omit [Scalar α] in
theorem asked?_message (free : e.profile = .ofTier .free) {hash : String}
    (named : hash.isEmpty = false) : e.blocks (message hash) = false ∧
      e.keyOf (message hash) = key hash ∧ e.asked? (message hash) = some (key hash) := by
  have unblocked : e.blocks (message hash) = false := by
    unfold Engine.blocks
    simp [free, Profile.ofTier]
  have own : e.keyOf (message hash) = key hash := by
    unfold Engine.keyOf Key.build
    simp [free, Profile.ofTier]
    rfl
  refine ⟨unblocked, own, ?_⟩
  unfold Engine.asked?
  rw [unblocked, own]
  simp [message, named]

/-- The TTL of all hashes is the global one. -/
theorem ttlOf_message (unlearned : e.Unlearned) (networks : e.networks = .wellKnown)
    (follows : e.TtlsFollow) (hash : String) :
    (e.ttlOf (message hash)).millisWord = e.ttlMillis := by
  have own := unlearned.trafficRecord "unknown"
  have unranked : e.networks.priorityTtl? "legacy" "unknown" = none := by
    rw [networks]
    decide +kernel
  have ttl : e.ttlOf (message hash) = (e.trafficRecord "unknown").ttl := by
    show e.ttlFor (e.trafficRecord "unknown") "unknown" "legacy" = _
    unfold Engine.ttlFor
    rw [own, unranked]
    rfl
  rw [ttl]
  exact follows.trafficRecord own

end SeenFilter

open SeenFilter

variable {capacity : UInt64} {ttl : Duration} {opened : Nat}

/-- The calls that ask for the key of a hash are those that pass the hash to the filter. -/
theorem Run.filter_asked (run : Run (config capacity ttl) opened past e)
    (asks : ∀ step ∈ past, step.call.OfFilter) {hash : String} (named : hash.isEmpty = false) :
    ∀ step ∈ past, step.asked? = some (key hash) ↔ step.call = .message (message hash) := by
  induction run with
  | start => simp
  | @call past e gate now call reply before reordered performed ih =>
    obtain ⟨own, others⟩ := List.forall_mem_cons.1 asks
    refine List.forall_mem_cons.2 ⟨?_, ih others⟩
    have free := (reordered.anonymous (before.anonymous (config_tier capacity ttl)
      fun step member => (others step member).stays .free)).free
    rcases own with rfl | ⟨other, rfl⟩
    · simp [Step.asked?]
    · show gate.asked? (message other) = _ ↔ Call.message (message other) = _
      have same : Call.message (message other) = .message (message hash) ↔ other = hash := by
        simp [message]
      -- A message without a hash asks for nothing, though it would have a key too.
      cases unnamed : other.isEmpty with
      | true =>
        have unasked : gate.asked? (message other) = none := by
          simp [Engine.asked?, message, unnamed]
        have different : other ≠ hash := by
          rintro rfl
          rw [named] at unnamed
          cases unnamed
        simp [unasked, same, different]
      | false =>
        rw [(asked?_message free unnamed).2.2, same]
        simp [key]

/-- Whether a hash was passed lately hangs on the latest call with it. -/
theorem Run.seenWithin_iff (run : Run (config capacity ttl) opened past e)
    (asks : ∀ step ∈ past, step.call.OfFilter) (ordered : (past.map Step.now).Pairwise (· ≥ ·))
    {hash : String} (named : hash.isEmpty = false) (millis : Nat) :
    SeenWithin past now hash millis ↔
      ∃ last, lastAsked (key hash) past = some last ∧ now - last ≤ millis := by
  have asked := run.filter_asked asks named
  constructor
  · rintro ⟨step, member, same, within⟩
    obtain ⟨last, found, later⟩ := lastAsked_latest ordered member ((asked step member).2 same)
    exact ⟨last, found, by omega⟩
  · rintro ⟨last, found, within⟩
    obtain ⟨step, member, same, rfl⟩ := lastAsked_origin found
    exact ⟨step, member, (asked step member).1 same, within⟩

/-- Two TTLs decide alike on a hash, but where the latest call with it lies between them. -/
theorem Run.seenWithin_same_iff (run : Run (config capacity ttl) opened past e)
    (asks : ∀ step ∈ past, step.call.OfFilter) (ordered : (past.map Step.now).Pairwise (· ≥ ·))
    {hash : String} (named : hash.isEmpty = false) :
    ((SeenWithin past now hash (ttlInForce ttl past).millisWord ∧ KeptSince (key hash) past) ↔
      SeenWithin past now hash ttl.millis ∧ KeptSince (key hash) past) ↔
        ¬Drifted ttl past now hash := by
  unfold Drifted
  simp only [run.seenWithin_iff asks ordered named]
  by_cases kept : KeptSince (key hash) past
  · cases found : lastAsked (key hash) past with
    | none => simp
    | some last =>
      simp only [kept, and_true, true_and, Option.some.injEq, exists_eq_left']
      omega
  · simp [kept]

/-- What is known of the gate of a filter. -/
theorem Run.filter_gate (run : Run (config capacity ttl) opened past e)
    (nonzero : ttl.isZero = false) (asks : ∀ step ∈ past, step.call.OfFilter) {gate : Engine α}
    (reordered : e.Reordered gate) : gate.profile = .ofTier .free ∧
      (∀ key, gate.store.contains key = true ↔ KeptSince key past) ∧
      ∀ hash, (gate.ttlOf (message hash)).millisWord = (ttlInForce ttl past).millisWord := by
  have untiered := fun step member => (asks step member).untiered
  have tier := config_tier (α := α) capacity ttl
  have free := (run.anonymous tier fun step member => (asks step member).stays .free).free
  have unlearned := run.unlearned (by rw [tier]; rfl) untiered
  have networks := run.networks
  have follows := run.ttlsFollow
  have global := run.ttlMillis_eq
  rw [config_networks] at networks
  rw [config_effectiveBaseTtl capacity ttl nonzero] at global
  obtain ⟨items, held, holds, _⟩ := run.ready reordered
  refine ⟨?_, fun key => ?_, fun hash => ?_⟩
  · obtain ⟨store, _, rfl⟩ := reordered
    exact free
  · rw [held.contains_eq holds]
    exact run.contains_iff untiered key
  · obtain ⟨store, _, rfl⟩ := reordered
    rw [← global]
    exact ttlOf_message ⟨unlearned.profile, unlearned.types⟩ networks (follows.congr rfl rfl) hash

/-- A filter answers by the TTL in force. A hash is suppressed where it was passed within that TTL
before and neither evicted nor cleaned up since. Adjustments move that TTL away from the one that
the filter was made with, which would decide otherwise on a hash between the two; there is none
before the hundredth hash. -/
theorem Run.filter_seen [RoundedScalar α] (nonzero : ttl.isZero = false)
    (run : Run (config capacity ttl) opened past e) (asks : ∀ step ∈ past, step.call.OfFilter)
    (ordered : (now :: past.map Step.now).Pairwise (· ≥ ·)) (reading : now < UInt64.size)
    {gate : Engine α} (reordered : e.Reordered gate) {hash : String}
    (named : hash.isEmpty = false) :
    (∀ reply, (SeenFilter.mk gate).seen now hash = .ok reply →
      (reply.value = true ↔ SeenWithin past now hash (ttlInForce ttl past).millisWord ∧
        KeptSince (key hash) past) ∧
      ((reply.value = true ↔ SeenWithin past now hash ttl.millis ∧ KeptSince (key hash) past) ↔
        ¬Drifted ttl past now hash)) ∧
    (SeenWithin past now hash (ttlInForce ttl past).millisWord → KeptSince (key hash) past →
      ∃ reply, (SeenFilter.mk gate).seen now hash = .ok reply ∧ reply.value = true) ∧
    (past.countP Step.isNamed < 100 → ttlInForce ttl past = ttl) := by
  obtain ⟨latest, earlier⟩ := List.pairwise_cons.1 ordered
  obtain ⟨free, stored, inForce⟩ := run.filter_gate nonzero asks reordered
  obtain ⟨items, held, room, bounded, lastSeen⟩ := run.items_lastSeen
  obtain ⟨holds, usable, fits⟩ := reordered.ready held room bounded
  obtain ⟨unblocked, own, asked⟩ := asked?_message free named
  have clocks : ∀ step ∈ past, step.now < UInt64.size := fun step member =>
    lt_of_le_of_lt (latest _ (List.mem_map_of_mem member)) reading
  have duplicate : ∀ {a}, gate.arrive now (message hash) = .ok a →
      ((Engine.lookUp now a (message hash)).outcome = .duplicate ↔
        SeenWithin past now hash (ttlInForce ttl past).millisWord ∧
          KeptSince (key hash) past) := by
    intro a arrived
    rw [Engine.duplicate_iff holds usable fits lastSeen arrived unblocked, inForce,
      run.seenWithin_iff asks earlier named, and_comm (b := KeptSince _ _), ← stored]
    unfold Engine.SuppressedWithin
    rw [unblocked, own]
    simp only [Bool.false_eq_true, false_or]
  refine ⟨fun reply answered => ?_, fun within kept => ?_, run.ttlInForce_of_few ttl⟩
  · obtain ⟨a, arrived, _, _, value⟩ := (Engine.receive_receives answered).asked asked
    have verdict := value.trans (duplicate arrived)
    refine ⟨verdict, ?_⟩
    rw [verdict]
    exact run.seenWithin_same_iff asks earlier named
  · -- The bookkeeping never fails. Only a hash that is let through can meet a faulty adjustment.
    have measurable := (run.measurable clocks).reordered reordered
    obtain ⟨a, arrived⟩ := measurable.arrive reading (message hash)
    have received := Engine.receive_resolves (m := message hash) named unblocked arrived
    rw [Engine.resolve_duplicate ((duplicate arrived).2 ⟨within, kept⟩)] at received
    exact ⟨_, received, rfl⟩

/-- One hash a hundred times, and another one a minute later: many duplicates, by which the TTL of a
minute grows. -/
def repeatedCalls : List (Nat × Call) :=
  List.replicate 100 (0, .message (message "a")) ++ [(60000, .message (message "b"))]

theorem repeatedCalls_run : ∃ (past : List (Step Float)) (e : Engine Float)
    (reply : Reply Float Bool), Run (config 10 (.ofSeconds 60)) 0 past e ∧
      past.map Step.request = repeatedCalls.reverse ∧
      (SeenFilter.mk e).seen 80000 "a" = .ok reply ∧ reply.value = true := by
  have usable : (config 10 (.ofSeconds 60) : Config Float).problem? = none := by decide +kernel
  have reaches : (Engine.assemble (config 10 (.ofSeconds 60) : Config Float)
      (by decide) 0).engine.reaches repeatedCalls (fun e =>
        match (SeenFilter.mk e).seen 80000 "a" with
        | .ok reply => reply.value
        | .error _ => false) = true := by
    decide +kernel
  obtain ⟨past, e, run, requests, facts⟩ := Run.of_requests usable reaches
  cases answered : (SeenFilter.mk e).seen 80000 "a" with
  | error => simp only [answered, Bool.false_eq_true] at facts
  | ok reply =>
    simp only [answered] at facts
    exact ⟨past, e, reply, run, requests, answered, facts⟩

theorem repeatedCalls_past {past : List (Step Float)}
    (requests : past.map Step.request = repeatedCalls.reverse) :
    (∀ step ∈ past, step.call.OfFilter) ∧ (80000 :: past.map Step.now).Pairwise (· ≥ ·) ∧
      ¬SeenWithin past 80000 "a" (Duration.ofSeconds 60).millis := by
  have origin : ∀ step ∈ past, step.request = (0, .message (message "a")) ∨
      step.request = (60000, .message (message "b")) := by
    intro step member
    have asked : step.request ∈ repeatedCalls.reverse := requests ▸ List.mem_map_of_mem member
    simpa [repeatedCalls, or_comm] using asked
  have readings : past.map Step.now = repeatedCalls.reverse.map Prod.fst := by
    rw [← requests, List.map_map]
    rfl
  refine ⟨fun step member => ?_, ?_, ?_⟩
  · rcases origin step member with first | last
    · exact Or.inr ⟨"a", congrArg Prod.snd first⟩
    · exact Or.inr ⟨"b", congrArg Prod.snd last⟩
  · rw [readings]
    decide +kernel
  · rintro ⟨step, member, call, within⟩
    rcases origin step member with first | last
    · rw [show step.now = 0 from congrArg Prod.fst first] at within
      exact absurd within (by decide)
    · have other : step.call = .message (message "b") := congrArg Prod.snd last
      rw [call] at other
      simp [message] at other

/-- A filter with a TTL of one minute suppresses a hash that was last passed 80 seconds ago. -/
theorem filter_outlived : ∃ (past : List (Step Float)) (e : Engine Float)
    (reply : Reply Float Bool), Run (config 10 (.ofSeconds 60)) 0 past e ∧
      (Duration.ofSeconds 60).isZero = false ∧ (∀ step ∈ past, step.call.OfFilter) ∧
      (80000 :: past.map Step.now).Pairwise (· ≥ ·) ∧
      (SeenFilter.mk e).seen 80000 "a" = .ok reply ∧ reply.value = true ∧
      ¬SeenWithin past 80000 "a" (Duration.ofSeconds 60).millis := by
  obtain ⟨past, e, reply, run, requests, answered, suppressed⟩ := repeatedCalls_run
  obtain ⟨asks, ordered, unseen⟩ := repeatedCalls_past requests
  exact ⟨past, e, reply, run, rfl, asks, ordered, answered, suppressed, unseen⟩

theorem filter_seen_repeated : ∃ (past : List (Step Float)) (e : Engine Float),
    Run (config 10 (.ofSeconds 60)) 0 past e ∧ (Duration.ofSeconds 60).isZero = false ∧
      (∀ step ∈ past, step.call.OfFilter) ∧ (80000 :: past.map Step.now).Pairwise (· ≥ ·) ∧
      80000 < UInt64.size ∧ "a".isEmpty = false ∧
      SeenWithin past 80000 "a" (ttlInForce (.ofSeconds 60) past).millisWord ∧
      KeptSince (key "a") past ∧ Drifted (.ofSeconds 60) past 80000 "a" := by
  obtain ⟨past, e, reply, run, requests, answered, suppressed⟩ := repeatedCalls_run
  obtain ⟨asks, ordered, unseen⟩ := repeatedCalls_past requests
  have reading : 80000 < UInt64.size := by decide
  have named : "a".isEmpty = false := rfl
  obtain ⟨verdicts, _, _⟩ :=
    run.filter_seen rfl asks ordered reading (Engine.Reordered.refl e) named
  obtain ⟨verdict, same⟩ := verdicts reply answered
  obtain ⟨within, kept⟩ := verdict.1 suppressed
  refine ⟨past, e, run, rfl, asks, ordered, reading, named, within, kept, ?_⟩
  by_contra still
  exact unseen ((same.2 still).1 suppressed).1

end GossipGate
