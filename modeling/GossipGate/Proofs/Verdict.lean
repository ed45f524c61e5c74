import GossipGate.Proofs.Run

namespace GossipGate

variable {α : Type} [Scalar α] {c : Config α} {opened : Nat} {past : List (Step α)} {e : Engine α}
  {now : Nat} {m : Message}

/-- The clock reading of the latest call that asked the store for a key. -/
def lastAsked (key : Key) : List (Step α) → Option Nat
  | [] => none
  | step :: past => if step.asked? = some key then some step.now else lastAsked key past

omit [Scalar α] in
theorem lastAsked_origin {key : Key} {last : Nat} (found : lastAsked key past = some last) :
    ∃ step ∈ past, step.asked? = some key ∧ step.now = last := by
  induction past with
  | nil => cases found
  | cons step past ih =>
    unfold lastAsked at found
    by_cases asked : step.asked? = some key
    · rw [if_pos asked] at found
      exact ⟨step, List.mem_cons_self, asked, Option.some.inj found⟩
    · rw [if_neg asked] at found
      obtain ⟨earlier, member, same⟩ := ih found
      exact ⟨earlier, List.mem_cons_of_mem _ member, same⟩

omit [Scalar α] in
/-- Of calls in the order of their clock readings the latest has the latest reading. -/
theorem lastAsked_latest {key : Key} (ordered : (past.map Step.now).Pairwise (· ≥ ·))
    {step : Step α} (member : step ∈ past) (asked : step.asked? = some key) :
    ∃ last, lastAsked key past = some last ∧ step.now ≤ last := by
  induction past with
  | nil => cases member
  | cons latest past ih =>
    obtain ⟨first, others⟩ := List.pairwise_cons.1 ordered
    unfold lastAsked
    by_cases own : latest.asked? = some key
    · rw [if_pos own]
      refine ⟨latest.now, rfl, ?_⟩
      rcases List.mem_cons.1 member with rfl | earlier
      · exact le_rfl
      · exact first _ (List.mem_map_of_mem earlier)
    · rw [if_neg own]
      rcases List.mem_cons.1 member with rfl | earlier
      · exact absurd asked own
      · exact ih others earlier

/-- Every stored entry was last seen by the latest call that asked for its key. -/
theorem Run.items_lastSeen (run : Run c opened past e) : ∃ items, e.store.Holds items ∧
    0 < e.store.capacity ∧ items.length ≤ e.store.capacity ∧
      ∀ item ∈ items, lastAsked item.1 past = some item.2.lastSeen := by
  refine run.invariant (P := fun past items => ∀ item ∈ items,
    lastAsked item.1 past = some item.2.lastSeen) (by simp) ?_
  intro step past items left seen _ accounts item member
  unfold lastAsked
  rcases accounts.origin item member with ⟨stored, other⟩ | ⟨asked, now, _⟩
  · rw [if_neg other]
    exact seen item stored
  · rw [if_pos asked, now]

namespace Engine

/-- The rule for suppression read off the calls so far: the sender is blocked, or an entry is
stored under the key and the latest call that asked for it lies at most `millis` back. -/
def SuppressedWithin (e : Engine α) (past : List (Step α)) (now : Nat) (m : Message)
    (millis : Nat) : Prop :=
  e.blocks m = true ∨ e.store.contains (e.keyOf m) = true ∧
    ∃ last, lastAsked (e.keyOf m) past = some last ∧ now - last ≤ millis

/-- The TTL is so long that its milliseconds do not fit the word that they are counted in, and the
latest call that asked for the key lies between the two counts. -/
def CutShort (e : Engine α) (past : List (Step α)) (now : Nat) (m : Message) : Prop :=
  e.blocks m = false ∧ e.store.contains (e.keyOf m) = true ∧
    ∃ last, lastAsked (e.keyOf m) past = some last ∧ (e.ttlOf m).millisWord < now - last ∧
      now - last ≤ (e.ttlOf m).millis

theorem millisWord_le (ttl : Duration) : ttl.millisWord ≤ ttl.millis := Nat.mod_le _ _

/-- No TTL below 2^64 milliseconds is cut short. -/
theorem CutShort.size_le (short : e.CutShort past now m) : UInt64.size ≤ (e.ttlOf m).millis := by
  obtain ⟨_, _, last, _, beyond, within⟩ := short
  by_contra small
  have same : (e.ttlOf m).millisWord = (e.ttlOf m).millis := Nat.mod_eq_of_lt (by omega)
  omega

/-- Both counts of the TTL suppress the same messages, except where the TTL is cut short. -/
theorem suppressedWithin_iff : (e.SuppressedWithin past now m (e.ttlOf m).millisWord ↔
    e.SuppressedWithin past now m (e.ttlOf m).millis) ↔ ¬e.CutShort past now m := by
  have le := millisWord_le (e.ttlOf m)
  constructor
  · rintro same ⟨unblocked, stored, last, asked, beyond, within⟩
    rcases same.2 (Or.inr ⟨stored, last, asked, within⟩) with blocked | ⟨_, again, found, inside⟩
    · rw [unblocked] at blocked
      cases blocked
    · rw [asked] at found
      cases Option.some.inj found
      omega
  · intro long
    constructor
    · rintro (blocked | ⟨stored, last, asked, within⟩)
      · exact Or.inl blocked
      · exact Or.inr ⟨stored, last, asked, within.trans le⟩
    · rintro (blocked | ⟨stored, last, asked, within⟩)
      · exact Or.inl blocked
      · cases decided : e.blocks m with
        | true => exact Or.inl decided
        | false =>
          refine Or.inr ⟨stored, last, asked, ?_⟩
          by_contra beyond
          exact long ⟨decided, stored, last, asked, by omega, within⟩

/-- A message that asks the store finds a live duplicate by the rule for the calls so far. -/
theorem duplicate_iff {items : List (Key × Entry α)} (holds : e.store.Holds items)
    (usable : 0 < e.store.capacity) (fits : e.store.size ≤ e.store.capacity)
    (seen : ∀ item ∈ items, lastAsked item.1 past = some item.2.lastSeen) {a : Arrival α}
    (arrived : e.arrive now m = .ok a) (unblocked : e.blocks m = false) :
    (lookUp now a m).outcome = .duplicate ↔
      e.SuppressedWithin past now m (e.ttlOf m).millisWord := by
  have follows := arrive_follows arrived
  rw [(lookUp_admits holds usable fits arrived).duplicate_iff, follows.key, follows.ttl]
  unfold SuppressedWithin
  simp only [unblocked, Bool.false_eq_true, false_or, Store.contains, Option.isSome_iff_exists]
  constructor
  · rintro ⟨entry, found, live⟩
    have last := seen _ ((holds.lookup _ _).1 found)
    exact ⟨⟨entry, found⟩, entry.lastSeen, last, of_decide_eq_true live⟩
  · rintro ⟨⟨entry, found⟩, last, asked, within⟩
    have same := seen _ ((holds.lookup _ _).1 found)
    simp only [asked, Option.some.injEq] at same
    refine ⟨entry, found, decide_eq_true ?_⟩
    rw [← same]
    exact within

end Engine

/-- The verdict on every message with a hash follows from the calls before it: it is suppressed
where its sender is blocked or the latest call with its key lies within its TTL, counted in a word
of milliseconds. Only a TTL that is cut short makes a difference to the full count. -/
theorem verdict_of_trace (run : Run c opened past e) {gate : Engine α}
    (reordered : e.Reordered gate) (named : m.hash.isEmpty = false) :
    (∀ reply, gate.perform now (.message m) = .ok reply →
      (reply.value = .verdict true ↔ gate.SuppressedWithin past now m (gate.ttlOf m).millisWord) ∧
      ((reply.value = .verdict true ↔ gate.SuppressedWithin past now m (gate.ttlOf m).millis) ↔
        ¬gate.CutShort past now m) ∧
      (reply.value = .verdict true → gate.blocks m = false → ∃ step ∈ past,
        step.asked? = some (gate.keyOf m) ∧ now - step.now ≤ (gate.ttlOf m).millis)) ∧
    ∀ fault, gate.perform now (.message m) = .error fault → gate.blocks m = false ∧
      (gate.arrive now m = .error fault ∨
        ¬gate.SuppressedWithin past now m (gate.ttlOf m).millisWord) := by
  obtain ⟨items, held, room, bounded, seen⟩ := run.items_lastSeen
  obtain ⟨holds, usable, fits⟩ := reordered.ready held room bounded
  constructor
  · intro reply performed
    obtain ⟨answer, answered, rfl⟩ := Engine.perform_message performed
    have verdict : (answer.map Answer.verdict).value = .verdict true ↔
        gate.SuppressedWithin past now m (gate.ttlOf m).millisWord := by
      have receives := Engine.receive_receives answered
      show Answer.verdict answer.value = .verdict true ↔ _
      rw [Answer.verdict.injEq]
      cases decided : gate.blocks m with
      | true =>
        have unasked : gate.asked? m = none := by simp [Engine.asked?, decided]
        rw [(receives.unasked unasked).2.1]
        simp [named, decided, Engine.SuppressedWithin]
      | false =>
        have asked : gate.asked? m = some (gate.keyOf m) := by simp [Engine.asked?, named, decided]
        obtain ⟨a, arrived, _, _, value⟩ := receives.asked asked
        exact value.trans (Engine.duplicate_iff holds usable fits seen arrived decided)
    refine ⟨verdict, ?_, ?_⟩
    · rw [verdict]
      exact Engine.suppressedWithin_iff
    · intro suppressed unblocked
      rcases verdict.1 suppressed with blocked | ⟨_, last, asked, within⟩
      · rw [unblocked] at blocked
        cases blocked
      · obtain ⟨step, member, same, rfl⟩ := lastAsked_origin asked
        exact ⟨step, member, same, within.trans (Engine.millisWord_le _)⟩
  · intro fault performed
    obtain ⟨unblocked, unmeasured | ⟨a, arrived, other⟩⟩ :=
      Engine.receive_error (Engine.perform_message_error performed)
    · exact ⟨unblocked, Or.inl unmeasured⟩
    · rw [Ne, Engine.duplicate_iff holds usable fits seen arrived unblocked] at other
      exact ⟨unblocked, Or.inr other⟩

/-- Settings of the FREE tier with a network whose priority messages live for 2^64 milliseconds. -/
def patientConfig : Config Float :=
  { Config.default with
    maxTtl := .ofSeconds 18446744073709551615
    networks := [⟨"n", .ofMillis 18446744073709551616, 1, ["t"], []⟩] }

def patientMessage : Message := ⟨"a", "t", "", { Metadata.empty with source := some "n" }⟩

theorem patientConfig_run : ∃ (past : List (Step Float)) (e : Engine Float)
    (reply : Reply Float Answer), Run patientConfig 0 past e ∧
      e.perform 1 (.message patientMessage) = .ok reply ∧ reply.value = .verdict false ∧
      e.store.contains (e.keyOf patientMessage) = true ∧
      lastAsked (e.keyOf patientMessage) past = some 0 ∧ 1 ≤ (e.ttlOf patientMessage).millis := by
  have usable : patientConfig.problem? = none := by decide +kernel
  have run := Run.start (Engine.start_eq usable 0)
  let opened := (Engine.assemble patientConfig (by decide) 0).engine
  have facts : (match opened.perform 0 (.message patientMessage) with
      | .ok first =>
        match first.engine.perform 1 (.message patientMessage) with
        | .ok second => decide (second.value = .verdict false ∧
            first.engine.store.contains (first.engine.keyOf patientMessage) = true ∧
            lastAsked (first.engine.keyOf patientMessage)
              [⟨opened, 0, .message patientMessage, first⟩] = some 0 ∧
            1 ≤ (first.engine.ttlOf patientMessage).millis)
        | .error _ => false
      | .error _ => false) = true := by
    decide +kernel
  cases first : opened.perform 0 (.message patientMessage) with
  | error => simp only [first, Bool.false_eq_true] at facts
  | ok reply =>
    simp only [first] at facts
    cases second : reply.engine.perform 1 (.message patientMessage) with
    | error => simp only [second, Bool.false_eq_true] at facts
    | ok answer =>
      simp only [second] at facts
      exact ⟨_, _, answer, run.call (Engine.Reordered.refl _) first, second,
        of_decide_eq_true facts⟩

/-- The full count of the TTL tells to suppress a message that passes. -/
theorem verdict_cut_short : ∃ (past : List (Step Float)) (e : Engine Float)
    (reply : Reply Float Answer), Run patientConfig 0 past e ∧ patientMessage.hash.isEmpty = false ∧
      e.perform 1 (.message patientMessage) = .ok reply ∧ reply.value = .verdict false ∧
      e.SuppressedWithin past 1 patientMessage (e.ttlOf patientMessage).millis := by
  obtain ⟨past, e, reply, run, performed, passes, stored, last, within⟩ := patientConfig_run
  exact ⟨past, e, reply, run, rfl, performed, passes, Or.inr ⟨stored, 0, last, within⟩⟩

theorem verdict_of_trace_patient : ∃ (past : List (Step Float)) (e : Engine Float),
    Run patientConfig 0 past e ∧ patientMessage.hash.isEmpty = false ∧
      ¬e.SuppressedWithin past 1 patientMessage (e.ttlOf patientMessage).millisWord ∧
      e.CutShort past 1 patientMessage := by
  obtain ⟨past, e, reply, run, performed, passes, stored, last, within⟩ := patientConfig_run
  obtain ⟨verdict, precise, _⟩ :=
    (verdict_of_trace run (Engine.Reordered.refl e) rfl).1 reply performed
  have passed : ¬reply.value = .verdict true := by
    rw [passes]
    simp
  refine ⟨past, e, run, rfl, verdict.not.1 passed, ?_⟩
  by_contra long
  exact passed ((precise.2 long).2 (Or.inr ⟨stored, 0, last, within⟩))

end GossipGate
