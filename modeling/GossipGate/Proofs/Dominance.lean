import GossipGate.Proofs.Clamping
import GossipGate.Proofs.EvictionMoments
import GossipGate.Proofs.InsertionOrder
import GossipGate.Proofs.Residence
import GossipGate.Proofs.Survivors

namespace GossipGate

/-- An entry that was last seen at most a day longer ago than one of lower priority is worth more
to a gate, and an eviction leaves it where it is. -/
def Engine.PriorityDominates {α : Type} [Scalar α] (e : Engine α) (now : Nat) (s : Store α) :
    Prop :=
  ∀ high low a b, s.get? high = some a → s.get? low = some b → b.priority < a.priority →
    now - a.lastSeen ≤ now - b.lastSeen + 86400000 →
    e.worth now b < e.worth now a ∧ ∃ victim, (e.evictOne now s).victim = some victim ∧
      victim ≠ a ∧ (e.evictOne now s).left.get? high = some a

section Victims

variable {α : Type} [Scalar α] [RoundedScalar α] {s : Store α} {items : List (Key × Entry α)}
  {e : Engine α} {now : Nat}

/-- Where worth decides, an eviction does not take an entry that is worth more than another. -/
theorem Store.Holds.evictOne_spares (holds : s.Holds items) (valued : e.Values now items)
    (queued : e.profile.priorityQueuing = true) {high low : Key} {a b : Entry α}
    (stored : s.get? high = some a) (other : s.get? low = some b)
    (below : e.worth now b < e.worth now a) :
    ∃ victim, (e.evictOne now s).victim = some victim ∧ victim ≠ a ∧
      (e.evictOne now s).left.get? high = some a := by
  have inItems := (holds.lookup high a).1 stored
  have otherInItems := (holds.lookup low b).1 other
  have ranked : EvictionPolicy.ofProfile e.profile = .priority := if_pos queued
  obtain ⟨p, own⟩ := valued ranked _ inItems
  obtain ⟨q, others⟩ := valued ranked _ otherInItems
  have lower := (RoundedScalar.lt_iff others own).1 below
  obtain ⟨item, takes, first⟩ := holds.evictOne_first valued (List.ne_nil_of_mem inItems)
  have spared : item ≠ (high, a) := by
    rintro rfl
    have different : (low, b) ≠ (high, a) := by
      rintro same
      rw [Prod.mk.injEq] at same
      rw [same.2] at others
      exact lower.ne (Option.some.inj (others.symm.trans own))
    have before := first (low, b) otherInItems different
    rw [Engine.goesFirst_iff_worth queued, RoundedScalar.lt_iff own others,
      RoundedScalar.beq_iff own others] at before
    rcases before with less | ⟨same, _⟩
    · exact less.not_gt lower
    · exact lower.ne same.symm
  have apart : high ≠ item.1 := by
    rintro rfl
    have same := (holds.lookup item.1 item.2).2 takes.member
    exact spared (Prod.ext rfl (Option.some.inj (same.symm.trans stored)))
  refine ⟨item.2, takes.victim, ?_, (takes.left.lookup high a).2
    (List.mem_filter.2 ⟨inItems, decide_eq_true apart⟩)⟩
  rintro rfl
  exact apart (holds.key_unique stored ((holds.lookup item.1 item.2).2 takes.member))

end Victims

variable {exp : Rat → Rat} {e : Engine Rat} {now : Nat}

/-- The worth of an entry in exact arithmetic. -/
theorem retention_exact (entry : Entry Rat) (profile : Profile) (score : Option Rat) (now : Nat) :
    @Entry.retention Rat (exactScalar exp) entry profile score now =
      entry.priority * 10 + (if profile.confidenceScoring then entry.confidence * 5 else 0) +
        (score.map (· * 3)).getD 0 - ((now - entry.lastSeen : Nat) : Rat) / 3600000 / 10 := by
  unfold Entry.retention Entry.ageHours
  cases score <;> cases profile.confidenceScoring <;> simp [Scalar.ofNat] <;> norm_num <;> ring

namespace Engine

/-- Ten for each level of priority, five for full confidence and three for a full score: what an
entry is worth lies in a band above its priority, less a tenth for each hour. -/
theorem Clamped.worth_band (clamped : @Clamped Rat (exactScalar exp) e)
    (scoring : e.profile.confidenceScoring = true) {entry : Entry Rat}
    (own : @Entry.Clamped Rat (exactScalar exp) entry) :
    entry.priority * 10 + 1 / 2 - ((now - entry.lastSeen : Nat) : Rat) / 36000000 ≤
        @worth Rat (exactScalar exp) e now entry ∧
      @worth Rat (exactScalar exp) e now entry ≤
        entry.priority * 10 + 8 - ((now - entry.lastSeen : Nat) : Rat) / 36000000 := by
  let _ := exactScalar exp
  have least : (1 / 10 : Rat) ≤ entry.confidence := by
    have notBelow := own.confidence.notBelow
    rw [not_lt] at notBelow
    norm_num at notBelow ⊢
    exact notBelow
  have most : entry.confidence ≤ 1 := by
    have notAbove := own.confidence.notAbove
    rw [not_lt] at notAbove
    norm_num at notAbove
    exact notAbove
  have bonus : 0 ≤ ((e.ownerScore? entry).map (· * 3)).getD 0 ∧
      ((e.ownerScore? entry).map (· * 3)).getD 0 ≤ 3 := by
    cases known : e.ownerScore? entry with
    | none => norm_num
    | some score =>
      obtain ⟨notBelow, notAbove⟩ := clamped.ownerScore known
      rw [not_lt] at notBelow notAbove
      norm_num at notBelow notAbove ⊢
      constructor <;> linarith
  unfold worth
  rw [retention_exact, if_pos scoring]
  constructor <;> linarith

/-- One level of priority outweighs confidence, score and a day of age together. -/
theorem Clamped.dominates (clamped : @Clamped Rat (exactScalar exp) e)
    (enterprise : e.profile = .ofTier .enterprise) {s : Store Rat} {items : List (Key × Entry Rat)}
    (holds : s.Holds items)
    (own : ∀ item ∈ items, @Entry.Clamped Rat (exactScalar exp) item.2) :
    @PriorityDominates Rat (exactScalar exp) e now s := by
  let _ := exactScalar exp
  let _ := roundedScalar_exact exp
  intro high low a b stored other outranks recent
  have scoring : e.profile.confidenceScoring = true := by
    rw [enterprise]
    rfl
  have queued : e.profile.priorityQueuing = true := by
    rw [enterprise]
    rfl
  have least : a.priority * 10 + 1 / 2 - ((now - a.lastSeen : Nat) : Rat) / 36000000 ≤
      e.worth now a :=
    (clamped.worth_band scoring (own _ ((holds.lookup high a).1 stored))).1
  have most : e.worth now b ≤
      b.priority * 10 + 8 - ((now - b.lastSeen : Nat) : Rat) / 36000000 :=
    (clamped.worth_band scoring (own _ ((holds.lookup low b).1 other))).2
  have level : (b.priority : Rat) + 1 ≤ a.priority := by exact_mod_cast outranks
  have day : ((now - a.lastSeen : Nat) : Rat) ≤ ((now - b.lastSeen : Nat) : Rat) + 86400000 := by
    exact_mod_cast recent
  have below : e.worth now b < e.worth now a := by linarith
  exact ⟨below, holds.evictOne_spares (fun _ _ _ => ⟨_, rfl⟩) queued stored other below⟩

end Engine

/-- The gates that evict for a call have clamped numbers and the profile of a tier, as the gate
before the call does. -/
theorem Step.Evicting.clamped {step : Step Rat} {gate : Engine Rat}
    (evicting : @Step.Evicting Rat (exactScalar exp) step gate)
    (clamped : @Engine.Clamped Rat (exactScalar exp) step.before)
    (regular : step.before.profile = .ofTier step.before.profile.tier) :
    @Engine.Clamped Rat (exactScalar exp) gate ∧ gate.profile = .ofTier gate.profile.tier := by
  let _ := exactScalar exp
  let _ := roundedScalar_exact exp
  cases evicting with
  | message _ arrived =>
    have goes := (Engine.arrive_goes arrived).1
    refine ⟨goes.keeps_always (fun _ _ moves kept => kept.moves moves) clamped, ?_⟩
    rw [(Engine.arrive_follows arrived).profile]
    exact regular
  | @setTier requested _ =>
    generalize Tier.serving requested = tier
    exact ⟨clamped.congr rfl rfl rfl, rfl⟩

/-- In the ENTERPRISE tier priority decides about evictions within a day, whatever is known of the
peers: between the calls of a run, and at every eviction during one. -/
theorem Run.priority_dominates {c : Config Rat} {opened : Nat} {past : List (Step Rat)}
    (run : @Run Rat (exactScalar exp) c opened past e) :
    (∀ gate, e.Reordered gate → gate.profile.tier = .enterprise →
      ∀ now, @Engine.PriorityDominates Rat (exactScalar exp) gate now gate.store) ∧
    ∀ step ∈ past, ∀ moment ∈ @Step.moments Rat (exactScalar exp) step,
      moment.gate.profile.tier = .enterprise →
        @Engine.PriorityDominates Rat (exactScalar exp) moment.gate step.now moment.store := by
  let _ := exactScalar exp
  let _ := roundedScalar_exact exp
  constructor
  · intro gate reordered enterprise now
    have clamped := run.clamped.reordered reordered
    obtain ⟨items, _, holds, _⟩ := run.ready reordered
    have regular : gate.profile = .ofTier gate.profile.tier := by
      obtain ⟨store, _, rfl⟩ := reordered
      exact run.regular.profile
    refine clamped.dominates (enterprise ▸ regular) holds fun item member => ?_
    exact clamped.entries item.1 item.2 ((holds.lookup item.1 item.2).2 member)
  · refine run.forall_steps fun earlier before step ran reordered _ moment member enterprise => ?_
    have clamped := ran.clamped.reordered reordered
    obtain ⟨items, _, holds, _⟩ := ran.ready reordered
    have regular : step.before.profile = .ofTier step.before.profile.tier := by
      obtain ⟨store, _, same⟩ := reordered
      rw [same]
      exact ran.regular.profile
    obtain ⟨evicting, kept, item, sublist, left, _⟩ := Step.moments_among holds member
    obtain ⟨gateClamped, gateRegular⟩ := evicting.clamped clamped regular
    refine gateClamped.dominates (enterprise ▸ gateRegular) left fun item member => ?_
    exact clamped.entries item.1 item.2
      ((holds.lookup item.1 item.2).2 (sublist.subset member))

/-- Settings of the ENTERPRISE tier with room for two entries. -/
def rankedConfig (α : Type) [Scalar α] : Config α :=
  { Config.ofTier .enterprise with capacity := some 2 }

/-- A block, a ping a day later, and a transaction for which there is no room. -/
def rankedCalls : List (Nat × Call) :=
  [(0, .message ⟨"a", "block", "", .empty⟩), (86400000, .message ⟨"b", "ping", "p", .empty⟩),
    (86400000, .message ⟨"c", "transaction", "p", .empty⟩)]

/-- The ping goes at a moment at which the block is a day older. -/
theorem priority_dominates_ranked : ∃ (past : List (Step Rat)) (e : Engine Rat),
    @Run Rat decayingScalar (@rankedConfig Rat decayingScalar) 0 past e ∧
      past.map Step.request = rankedCalls.reverse ∧
      (past.flatMap (@Step.moments Rat decayingScalar)).map (fun moment =>
        (moment.gate.profile.tier, moment.victim.hash,
          (moment.store.get? (.global "a")).map (fun a => (a.priority, a.lastSeen)),
          (moment.store.get? (.global "b")).map (fun b => (b.priority, b.lastSeen)))) =
        [(.enterprise, "b", some (10, 0), some (2, 86400000))] ∧
      (∀ gate, e.Reordered gate → gate.profile.tier = .enterprise →
        ∀ now, @Engine.PriorityDominates Rat decayingScalar gate now gate.store) ∧
      ∀ step ∈ past, ∀ moment ∈ @Step.moments Rat decayingScalar step,
        moment.gate.profile.tier = .enterprise →
          @Engine.PriorityDominates Rat decayingScalar moment.gate step.now moment.store := by
  let _ := decayingScalar
  have usable : (rankedConfig Rat).problem? = none := by decide +kernel
  have traced : ((Engine.assemble (rankedConfig Rat)
      (Config.minTtl_le_maxTtl_ofTier (α := Rat) .enterprise) 0).engine.trace
        rankedCalls).toOption.any (fun past => decide ((past.flatMap Step.moments).map (fun moment =>
          (moment.gate.profile.tier, moment.victim.hash,
            (moment.store.get? (.global "a")).map (fun a => (a.priority, a.lastSeen)),
            (moment.store.get? (.global "b")).map (fun b => (b.priority, b.lastSeen)))) =
          [(.enterprise, "b", some (10, 0), some (2, 86400000))])) = true := by
    decide +kernel
  obtain ⟨past, e, run, requests, victims⟩ := Run.of_trace usable traced
  exact ⟨past, e, run, requests, of_decide_eq_true victims, run.priority_dominates⟩

end GossipGate
