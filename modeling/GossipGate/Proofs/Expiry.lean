import GossipGate.Proofs.BareGate
import GossipGate.Proofs.Counters

namespace GossipGate

variable {α : Type} [Scalar α]

/-- Counts keep their order as numbers. -/
theorem Scalar.ofNat_mono [RoundedScalar α] {m n k : Nat} (le : m ≤ n) (short : n ≤ 2 ^ k)
    (few : k ≤ 1000) : (ofNat m : α) ≤ ofNat n := by
  obtain ⟨p, first, roundedFirst⟩ := RoundedScalar.ofNat (α := α) (le.trans short) few
  obtain ⟨q, second, roundedSecond⟩ := RoundedScalar.ofNat (α := α) short few
  exact (RoundedScalar.le_iff first second).2 (roundedFirst.mono roundedSecond (Nat.cast_le.2 le))

variable {c : Config α} {opened : Nat} {past : List (Step α)} {e : Engine α} {now : Nat}
  {m : Message}

/-- There is a record of every type of message that was brought with a hash. -/
theorem Run.brought (run : Run c opened past e) {step : Step α} (member : step ∈ past)
    {messageType : String} (brings : step.Brings messageType) :
    e.traffic.contains messageType = true := by
  induction run with
  | start => cases member
  | call _ reordered performed ih =>
    have counts := Engine.perform_counts performed
    rcases List.mem_cons.1 member with rfl | earlier
    · exact counts.types messageType (Or.inr brings)
    · obtain ⟨store, _, rfl⟩ := reordered
      exact counts.types messageType (Or.inl (ih earlier))

/-- Every stored entry is described by its key, and there is a record of its type. -/
theorem Run.typed (run : Run c opened past e) : ∃ items, e.store.Holds items ∧
    0 < e.store.capacity ∧ items.length ≤ e.store.capacity ∧
      ∀ item ∈ items, item.1.Describes item.2 ∧
        e.traffic.contains item.2.messageType = true := by
  obtain ⟨items, holds, usable, fits, described⟩ := run.invariant
    (P := fun past items => ∀ item ∈ items, item.1.Describes item.2 ∧
      ∃ step ∈ past, step.Brings item.2.messageType) (by simp) (by
    intro step past items left described _ accounts item member
    refine ⟨?_, ?_⟩
    · rcases accounts.origin item member with ⟨stored, _⟩ | ⟨_, _, first | ⟨old, stored, same⟩⟩
      · exact (described item stored).1
      · exact first
      · exact (described _ stored).1.congr same
    · rcases accounts.brought item member with ⟨old, stored, same⟩ | own
      · obtain ⟨earlier, among, brings⟩ := (described old stored).2
        exact ⟨earlier, List.mem_cons_of_mem _ among, same ▸ brings⟩
      · exact ⟨step, List.mem_cons_self, own⟩)
  refine ⟨items, holds, usable, fits, fun item member => ?_⟩
  obtain ⟨describes, step, among, brings⟩ := described item member
  exact ⟨describes, run.brought among brings⟩

namespace Engine

/-- For an entry of its own key a cleanup counts with the TTL that a message looks it up with. -/
theorem entryTtl_eq_ttlOf (free : e.profile = .ofTier .free) {entry : Entry α}
    (describes : (e.keyOf m).Describes entry)
    (known : e.traffic.contains entry.messageType = true) : e.entryTtl entry = e.ttlOf m := by
  have key : e.keyOf m = .typed m.network m.messageType m.hash := by
    unfold keyOf Key.build
    simp [free, Profile.ofTier]
  rw [key] at describes
  obtain ⟨network, messageType, _⟩ := describes
  obtain ⟨t, stored⟩ := Option.isSome_iff_exists.1 known
  unfold entryTtl ttlOf trafficRecord
  rw [← messageType, ← network, stored]
  rfl

/-- What a message still finds live is kept by a cleanup. The word of milliseconds that the message
counts the TTL with is never above the full count. -/
theorem isKept_of_isLive [RoundedScalar α] (free : e.profile = .ofTier .free) {entry : Entry α}
    (live : entry.isLive now (e.entryTtl entry) = true) : e.isKept now entry = true := by
  have within : now - entry.lastSeen ≤ (e.entryTtl entry).millisWord := of_decide_eq_true live
  have word : (e.entryTtl entry).millisWord ≤ (e.entryTtl entry).millis := Nat.mod_le _ _
  have short : (e.entryTtl entry).millis ≤ 2 ^ 74 := by
    have limited := (e.entryTtl entry).nanos_lt
    unfold Duration.millis
    omega
  rw [isKept_free free]
  exact decide_eq_true (Scalar.ofNat_mono (within.trans word) short (by norm_num))

/-- The verdict on a message that asks the store hangs on the store by one question only. -/
theorem receive_value (free : e.profile = .ofTier .free) (named : m.hash.isEmpty = false)
    {a : Arrival α} (arrived : e.arrive now m = .ok a) : (e.receive now m).map Reply.value =
      if (lookUp now a m).outcome = .duplicate then .ok true
      else (a.engine.adjustIfDue now).map fun _ => false := by
  have known : a.engine.profile = .ofTier .free := (arrive_follows arrived).profile.trans free
  have unscored := arrive_unscored free arrived
  have unblocked : e.blocks m = false := by
    unfold blocks
    simp [free, Profile.ofTier]
  rw [receive_resolves named unblocked arrived]
  split
  · rename_i duplicate
    rw [resolve_duplicate duplicate]
    rfl
  · rename_i other
    rw [resolve_other other, pass_free (e := a.engine.withStore (lookUp now a m).store) known
      unscored, adjustIfDue_withStore]
    cases a.engine.adjustIfDue now <;> rfl

theorem receive_unmeasured (named : m.hash.isEmpty = false) {fault : Fault}
    (faulted : e.arrive now m = .error fault) : e.receive now m = .error fault := by
  unfold receive
  simp only [named, faulted]
  rfl

/-- Stores that find a message live or not alike answer it alike. -/
theorem receive_value_withStore (free : e.profile = .ofTier .free) {store : Store α}
    (same : ∀ a, e.arrive now m = .ok a → ((lookUp now (a.withStore store) m).outcome = .duplicate ↔
      (lookUp now a m).outcome = .duplicate)) :
    ((e.withStore store).receive now m).map Reply.value = (e.receive now m).map Reply.value := by
  cases named : m.hash.isEmpty with
  | true =>
    unfold receive
    simp only [named, if_true]
    rfl
  | false =>
    have arrives : (e.withStore store).arrive now m =
        (e.arrive now m).map fun a => a.withStore store :=
      arrive_withStore store
    cases arrived : e.arrive now m with
    | error fault =>
      rw [arrived] at arrives
      rw [receive_unmeasured named arrived, receive_unmeasured named arrives]
    | ok a =>
      rw [arrived] at arrives
      rw [receive_value free named arrived,
        receive_value (e := e.withStore store) free named arrives]
      have adjusted : (a.withStore store).engine.adjustIfDue now =
          (a.engine.adjustIfDue now).map fun r => (r.1.withStore store, r.2) :=
        adjustIfDue_withStore (e := a.engine) store
      simp only [same a arrived, adjusted]
      cases a.engine.adjustIfDue now <;> rfl

/-- A message finds a live duplicate where the store holds a live entry under its key. -/
theorem duplicate_iff_live {items : List (Key × Entry α)} (holds : e.store.Holds items)
    (usable : 0 < e.store.capacity) (fits : e.store.size ≤ e.store.capacity) {a : Arrival α}
    (arrived : e.arrive now m = .ok a) : (lookUp now a m).outcome = .duplicate ↔
      ∃ entry, (e.keyOf m, entry) ∈ items ∧ entry.isLive now (e.ttlOf m) = true := by
  have follows := arrive_follows arrived
  rw [(lookUp_admits holds usable fits arrived).duplicate_iff, follows.key, follows.ttl]
  simp only [holds.lookup]

/-- A cleanup at the same moment changes no verdict. -/
theorem cleanup_receive [RoundedScalar α] (free : e.profile = .ofTier .free)
    {items : List (Key × Entry α)} (holds : e.store.Holds items) (usable : 0 < e.store.capacity)
    (fits : e.store.size ≤ e.store.capacity)
    (typed : ∀ item ∈ items, item.1.Describes item.2 ∧
      e.traffic.contains item.2.messageType = true) {again : Engine α}
    (reordered : (e.cleanup now).engine.Reordered again) :
    (again.receive now m).map Reply.value = (e.receive now m).map Reply.value := by
  obtain ⟨store, sameStore, rfl⟩ := reordered
  -- The records of peers went with the cleanup as well, but nobody looks at them.
  have value : ∀ gate : Engine α, gate.profile = .ofTier .free →
      (gate.receive now m).map Reply.value = (gate.bare.receive now m.bare).map Reply.value := by
    intro gate unpaid
    rw [receive_bare unpaid]
    cases gate.receive now m <;> rfl
  have bare : ((e.cleanup now).engine.withStore store).bare = (e.withStore store).bare := rfl
  rw [value ((e.cleanup now).engine.withStore store) free, bare, ← value (e.withStore store) free]
  refine receive_value_withStore free fun a arrived => ?_
  have arrives : (e.withStore store).arrive now m = .ok (a.withStore store) := by
    rw [arrive_withStore, arrived]
    rfl
  have kept := (holds.retain (e.isKept now)).1.reordered sameStore
  have fewer := List.length_filter_le (fun item => e.isKept now item.2) items
  have capacity : store.capacity = e.store.capacity := sameStore.capacity
  rw [duplicate_iff_live holds usable fits arrived,
    duplicate_iff_live (e := e.withStore store) kept (capacity.symm ▸ usable) ?_ arrives]
  · constructor
    · rintro ⟨entry, stored, live⟩
      exact ⟨entry, List.mem_of_mem_filter stored, live⟩
    · rintro ⟨entry, stored, live⟩
      obtain ⟨describes, known⟩ := typed _ stored
      have ttl := entryTtl_eq_ttlOf free describes known
      exact ⟨entry, List.mem_filter.2 ⟨stored, isKept_of_isLive free (ttl ▸ live)⟩, live⟩
  · show store.size ≤ store.capacity
    rw [kept.size_eq, capacity]
    exact fewer.trans (holds.size_eq.symm.le.trans fits)

end Engine

/-- Where nothing is scored a cleanup and a look-up agree on what is expired. There is a record of
the type of every entry, both count with the same TTL, a cleanup keeps what its own key would still
find live, and so no verdict at the same moment tells whether there was one. -/
theorem Run.cleanup_unnoticed [RoundedScalar α] (run : Run c opened past e) {gate : Engine α}
    (reordered : e.Reordered gate) (unscored : gate.profile.confidenceScoring = false ∧
      gate.profile.reputationScoring = false) (now : Nat) :
    (∀ key entry, gate.store.get? key = some entry →
      gate.traffic.contains entry.messageType = true) ∧
    (∀ m entry, gate.store.get? (gate.keyOf m) = some entry →
      gate.entryTtl entry = gate.ttlOf m ∧ (entry.isLive now (gate.ttlOf m) = true →
        (gate.cleanup now).engine.store.get? (gate.keyOf m) = some entry)) ∧
    ∀ m again, (gate.cleanup now).engine.Reordered again →
      (again.perform now (.message m)).map Reply.value =
        (gate.perform now (.message m)).map Reply.value := by
  have regular := run.regular.profile
  obtain ⟨items, held, room, bounded, described⟩ := run.typed
  obtain ⟨holds, usable, fits⟩ := reordered.ready held room bounded
  obtain ⟨store, _, rfl⟩ := reordered
  have free : (e.withStore store).profile = .ofTier .free := by
    have unpaid : e.profile.confidenceScoring = false := unscored.1
    show e.profile = _
    rw [regular] at unpaid ⊢
    cases level : e.profile.tier with
    | free => rfl
    | business | enterprise =>
      rw [level] at unpaid
      cases unpaid
  refine ⟨fun key entry found => ?_, fun m entry found => ?_, fun m again cleaned => ?_⟩
  · exact (described _ ((holds.lookup key entry).1 found)).2
  · have stored := (holds.lookup _ entry).1 found
    obtain ⟨describes, known⟩ := described _ stored
    have ttl := Engine.entryTtl_eq_ttlOf (e := e.withStore store) free describes known
    refine ⟨ttl, fun live => ?_⟩
    have kept := (holds.retain ((e.withStore store).isKept now)).1
    exact (kept.lookup _ entry).2
      (List.mem_filter.2 ⟨stored, Engine.isKept_of_isLive free (ttl ▸ live)⟩)
  · have verdicts := Engine.cleanup_receive (m := m) free holds usable fits described cleaned
    have performs : ∀ g : Engine α, (g.perform now (.message m)).map Reply.value =
        ((g.receive now m).map Reply.value).map .verdict := by
      intro g
      show ((g.receive now m).map _).map _ = _
      cases g.receive now m <;> rfl
    rw [performs, performs, verdicts]

/-- A gate that left the BUSINESS tier, with an entry from there, an expired one and a live one. -/
def downgradedCalls : List (Nat × Call) :=
  [(0, .message ⟨"a", "t", "p", .empty⟩), (1, .setTier "FREE"),
    (2, .message ⟨"b", "t", "p", .empty⟩), (3, .message ⟨"c", "t", "p", .empty⟩)]

theorem cleanup_unnoticed_downgraded : ∃ (past : List (Step Float)) (e : Engine Float),
    Run (Config.ofTier .business) 0 past e ∧ past.map Step.request = downgradedCalls.reverse ∧
      e.profile.confidenceScoring = false ∧ e.profile.reputationScoring = false ∧
      e.store.size = 3 ∧ (e.cleanup 600003).value = ⟨2, 0⟩ ∧
      ∀ m, ((e.cleanup 600003).engine.perform 600003 (.message m)).map Reply.value =
        (e.perform 600003 (.message m)).map Reply.value := by
  have usable : (Config.ofTier .business : Config Float).problem? = none := by decide +kernel
  have reaches : (Engine.assemble (Config.ofTier .business : Config Float) (by decide)
      0).engine.reaches downgradedCalls (fun e => decide (e.profile.confidenceScoring = false ∧
        e.profile.reputationScoring = false ∧ e.store.size = 3 ∧
        (e.cleanup 600003).value = ⟨2, 0⟩)) = true := by
    decide +kernel
  obtain ⟨past, e, run, requests, facts⟩ := Run.of_requests usable reaches
  obtain ⟨confidence, reputation, size, counts⟩ := of_decide_eq_true facts
  obtain ⟨_, _, verdicts⟩ :=
    run.cleanup_unnoticed (Engine.Reordered.refl e) ⟨confidence, reputation⟩ 600003
  exact ⟨past, e, run, requests, confidence, reputation, size, counts,
    fun m => verdicts m _ (Engine.Reordered.refl _)⟩

end GossipGate
