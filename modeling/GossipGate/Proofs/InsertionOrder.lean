import GossipGate.Proofs.EvictionMoments
import GossipGate.Proofs.StoreRefinement

namespace GossipGate

variable {α : Type} {s t : Store α} {items left : List (Key × Entry α)} {evicted : List (Entry α)}
  {now : Nat} {seen : Sighting α}

/-- The entries of a store stay in the order of their insertion: they keep their numbers, new ones
stand behind all others, and the evicted ones stood in front of all that are left. -/
structure Store.Ages (s : Store α) (items : List (Key × Entry α)) (evicted : List (Entry α))
    (t : Store α) (left : List (Key × Entry α)) : Prop where
  holds : t.Holds left
  nextSeq : s.nextSeq ≤ t.nextSeq
  origin : ∀ item ∈ left, (∃ old ∈ items, old.2.seq = item.2.seq) ∨ s.nextSeq ≤ item.2.seq
  victims : ∀ victim ∈ evicted, ∃ item ∈ items, victim = item.2
  ordered : evicted.Pairwise fun a b => a.seq < b.seq
  first : ∀ victim ∈ evicted, ∀ item ∈ left, victim.seq < item.2.seq

namespace Store

/-- Nothing new and nothing evicted. -/
theorem Holds.ages_subset (left_holds : t.Holds left) (nextSeq : t.nextSeq = s.nextSeq)
    (subset : left ⊆ items) : s.Ages items [] t left where
  holds := left_holds
  nextSeq := nextSeq.ge
  origin := fun item member => Or.inl ⟨item, subset member, rfl⟩
  victims := fun victim member => by cases member
  ordered := .nil
  first := fun victim member => by cases member

theorem Holds.ages_modify (holds : s.Holds items) (key : Key) {f : Entry α → Entry α}
    (seq_eq : ∀ entry, (f entry).seq = entry.seq) :
    ∃ left, s.Ages items [] (s.modify key f) left := by
  refine ⟨_, holds.modify key seq_eq, le_rfl, fun item member => ?_, ?_, .nil, ?_⟩
  · obtain ⟨old, stored, rfl⟩ := List.mem_map.1 member
    refine Or.inl ⟨old, stored, ?_⟩
    split
    · exact (seq_eq old.2).symm
    · rfl
  · intro victim member
    cases member
  · intro victim member
    cases member

/-- A change of an entry touches no record. -/
theorem order_modify (s : Store α) (key : Key) (f : Entry α → Entry α) :
    (s.modify key f).shards.map Shard.order = s.shards.map Shard.order := by
  refine List.ext_getElem? fun index => ?_
  simp only [Store.modify, Store.updateShard, List.getElem?_map, List.getElem?_modify]
  cases s.shards[index]? with
  | none => rfl
  | some shard =>
    simp only [Option.map_eq_map, Option.map_some]
    split <;> rfl

/-- An insertion behind all that evictions left. -/
theorem Ages.insert (ages : s.Ages items evicted t left) (issued : ∀ item ∈ items,
    item.2.seq < s.nextSeq) {key : Key} {entry : Entry α} {stored : Store α}
    (absent : t.get? key = none) (inserted : t.insert? key entry = some stored) :
    ∃ more, s.Ages items evicted stored more := by
  obtain ⟨_, again, more, _, nextSeq⟩ :=
    ages.holds.insert entry absent (room_of_insert? inserted)
  cases Option.some.inj (inserted.symm.trans again)
  refine ⟨_, more, ?_, ?_, ages.victims, ages.ordered, ?_⟩
  · rw [nextSeq]
    exact ages.nextSeq.trans (Nat.le_succ _)
  · intro item member
    rcases List.mem_append.1 member with old | last
    · exact ages.origin item old
    · rw [List.mem_singleton.1 last]
      exact Or.inr ages.nextSeq
  · intro victim member item among
    rcases List.mem_append.1 among with old | last
    · exact ages.first victim member item old
    · obtain ⟨own, stored, rfl⟩ := ages.victims victim member
      rw [List.mem_singleton.1 last]
      exact (issued own stored).trans_le ages.nextSeq

variable [Scalar α] {e : Engine α}

theorem Holds.evictOne_head {item : Key × Entry α} {rest : List (Key × Entry α)}
    (holds : s.Holds (item :: rest)) (unqueued : e.profile.priorityQueuing = false) :
    (e.evictOne now s).Takes s (item :: rest) item := by
  unfold Engine.evictOne EvictionPolicy.ofProfile
  rw [unqueued]
  exact holds.evictOldest_cons

/-- Without priority queuing the victim is older than all others. -/
theorem Holds.evictOne_oldest (holds : s.Holds items) (unqueued : e.profile.priorityQueuing = false)
    {item : Key × Entry α} (takes : (e.evictOne now s).Takes s items item) :
    ∀ other ∈ items, other ≠ item → item.2.seq < other.2.seq := by
  cases items with
  | nil => cases takes.member
  | cons head rest =>
    have victim : head.2 = item.2 :=
      Option.some.inj ((holds.evictOne_head unqueued).victim.symm.trans takes.victim)
    have same : item = head :=
      eq_of_strictly_growing holds.sorted takes.member List.mem_cons_self
        (congrArg Entry.seq victim.symm)
    subst same
    intro other member different
    rcases List.mem_cons.1 member with own | later
    · exact absurd own different
    · exact (List.pairwise_cons.1 holds.sorted).1 other later

/-- Without priority queuing evictions take a first part of the entries away. -/
theorem Holds.evictMany_prefix (holds : s.Holds items)
    (unqueued : e.profile.priorityQueuing = false) {count : Nat} (enough : count ≤ items.length) :
    (e.evictMany now count s).2 = (items.take count).map Prod.snd ∧
      (e.evictMany now count s).1.Holds (items.drop count) ∧
      (e.evictMany now count s).1.nextSeq = s.nextSeq := by
  induction count generalizing s items with
  | zero => exact ⟨rfl, holds, rfl⟩
  | succ count ih =>
    cases items with
    | nil => simp at enough
    | cons item rest =>
      have takes : (e.evictOne now s).Takes s (item :: rest) item := holds.evictOne_head unqueued
      have remains := takes.left
      rw [holds.tail_eq] at remains
      obtain ⟨victims, leftHolds, nextSeq⟩ := ih remains (Nat.le_of_succ_le_succ enough)
      simp only [Engine.evictMany, takes.victim]
      refine ⟨?_, leftHolds, nextSeq.trans takes.nextSeq⟩
      rw [victims]
      rfl

theorem Holds.ages_evictMany (holds : s.Holds items)
    (unqueued : e.profile.priorityQueuing = false) {count : Nat} (enough : count ≤ items.length) :
    ∃ left, s.Ages items (e.evictMany now count s).2 (e.evictMany now count s).1 left := by
  have evicts : (e.evictMany now count s).2 = (items.take count).map Prod.snd ∧ _ :=
    holds.evictMany_prefix unqueued enough
  obtain ⟨victims, leftHolds, nextSeq⟩ := evicts
  have sorted := holds.sorted
  rw [← List.take_append_drop count items, List.pairwise_append] at sorted
  obtain ⟨gone, _, across⟩ := sorted
  rw [victims]
  refine ⟨_, leftHolds, nextSeq.ge, ?_, ?_, List.pairwise_map.2 gone, ?_⟩
  · intro item member
    exact Or.inl ⟨item, List.mem_of_mem_drop member, rfl⟩
  · intro victim member
    obtain ⟨item, among, rfl⟩ := List.mem_map.1 member
    exact ⟨item, List.mem_of_mem_take among, rfl⟩
  · intro victim member other stays
    obtain ⟨item, among, rfl⟩ := List.mem_map.1 member
    exact across item among other stays

end Store

/-! ### Calls -/

variable [Scalar α] {e : Engine α} {m : Message}

theorem Admits.ages {admission : Admission α} (admits : Admits e now seen s items admission)
    (holds : s.Holds items) (unqueued : e.profile.priorityQueuing = false) :
    ∃ left, s.Ages items admission.evicted admission.store left := by
  cases admits with
  | duplicate => exact holds.ages_modify seen.key Engine.sightAgain_seq
  | refreshed => exact holds.ages_modify seen.key fun _ => rfl
  | inserted absent inserts =>
    exact (holds.ages_subset rfl (List.Subset.refl items)).insert holds.issued absent inserts
  | @replaced item _ absent _ takes inserts =>
    have oldest := holds.evictOne_oldest unqueued takes
    have gone := takes.left.absent_iff.2 fun other member =>
      holds.absent_iff.1 absent other (List.mem_of_mem_filter member)
    have ages : s.Ages items [item.2] (e.evictOne now s).left
        (items.filter fun other => other.1 ≠ item.1) := by
      refine ⟨takes.left, takes.nextSeq.ge, fun other member => ?_, fun victim own => ?_,
        List.pairwise_singleton _ _, fun victim own other member => ?_⟩
      · exact Or.inl ⟨other, List.mem_of_mem_filter member, rfl⟩
      · exact ⟨item, takes.member, List.mem_singleton.1 own⟩
      · obtain ⟨stored, different⟩ := List.mem_filter.1 member
        rw [List.mem_singleton.1 own]
        exact oldest other stored fun same => of_decide_eq_true different (congrArg Prod.fst same)
    exact ages.insert holds.issued gone inserts

namespace Step

/-- The profile in force before and after a call evicts by insertion. -/
structure Unqueued (step : Step α) : Prop where
  before : step.before.profile.priorityQueuing = false
  after : step.reply.engine.profile.priorityQueuing = false

/-- A call leaves every entry where it stands in the order of insertion. -/
structure KeepsOrder (step : Step α) : Prop where
  nextSeq : step.reply.engine.store.nextSeq = step.before.store.nextSeq
  records : step.reply.engine.store.shards.map Shard.order =
    step.before.store.shards.map Shard.order
  numbers : ∀ key, (step.reply.engine.store.get? key).map Entry.seq =
    (step.before.store.get? key).map Entry.seq

theorem evicted_message {reply : Reply α Answer} {admission : Admission α}
    (admitted : e.admission? now m = some admission) :
    (Step.mk e now (.message m) reply).evicted = admission.evicted := by
  simp only [evicted, admission?, admitted, Option.map_some, Option.getD_some]

end Step

namespace Engine

/-- A call that leaves the store alone. -/
theorem ages_idle (holds : e.store.Holds items) {call : Call} {reply : Reply α Answer}
    (same : reply.engine.store = e.store) (unevicted : (Step.mk e now call reply).evicted = []) :
    ∃ left, e.store.Ages items (Step.mk e now call reply).evicted reply.engine.store left := by
  rw [same, unevicted]
  exact ⟨items, holds.ages_subset rfl (List.Subset.refl items)⟩

theorem ages_message (holds : e.store.Holds items) (usable : 0 < e.store.capacity)
    (fits : e.store.size ≤ e.store.capacity) (unqueued : e.profile.priorityQueuing = false)
    {reply : Reply α Bool} (answered : e.receive now m = .ok reply) :
    ∃ left, e.store.Ages items (Step.mk e now (.message m) (reply.map .verdict)).evicted
      (reply.map Answer.verdict).engine.store left := by
  have receives := receive_receives answered
  cases asks : e.asked? m with
  | none =>
    obtain ⟨same, _, unadmitted⟩ := receives.unasked asks
    refine ages_idle holds same ?_
    simp only [Step.evicted, Step.admission?, unadmitted, Option.map_none, Option.getD_none]
  | some key =>
    obtain ⟨a, arrived, admitted, same, _⟩ := receives.asked asks
    rw [Step.evicted_message admitted]
    show ∃ left, e.store.Ages items _ reply.engine.store left
    rw [same]
    exact (lookUp_admits holds usable fits arrived).ages holds
      ((congrArg Profile.priorityQueuing (arrive_follows arrived).profile).trans unqueued)

theorem ages_shrunk (holds : e.store.Holds items) {tier : Tier}
    (unqueued : (Profile.ofTier tier).priorityQueuing = false) :
    ∃ left, e.store.Ages items (e.shrunk now tier).2 (e.shrunk now tier).1 left := by
  let changed : Engine α := { e with profile := .ofTier tier }
  have size := holds.size_eq
  have cut := holds.setCapacity tier.capacity
  have enough : e.store.size - tier.capacity ≤ items.length := by omega
  have evicts : ∃ left, (e.store.setCapacity tier.capacity).Ages items
      (changed.evictMany now (e.store.size - tier.capacity) (e.store.setCapacity tier.capacity)).2
      (changed.evictMany now (e.store.size - tier.capacity)
        (e.store.setCapacity tier.capacity)).1 left := cut.ages_evictMany unqueued enough
  obtain ⟨left, ages⟩ := evicts
  exact ⟨left, ages.holds, ages.nextSeq, ages.origin, ages.victims, ages.ordered, ages.first⟩

theorem ages_setTier (holds : e.store.Holds items) {requested : String} {reply : Reply α Answer}
    (answered : reply = (e.setTier now requested).map fun _ => .done)
    (unqueued : reply.engine.profile.priorityQueuing = false) :
    ∃ left, e.store.Ages items (Step.mk e now (.setTier requested) reply).evicted
      reply.engine.store left := by
  subst answered
  have retiers := setTier_eq e now requested
  simp only [Step.evicted, Reply.map, retiers] at unqueued ⊢
  rw [retiered_store]
  -- The tier stays a variable: nothing depends on what its settings are.
  generalize served : Tier.serving requested = tier
  have profile : (e.retiered requested (e.shrunk now (.serving requested))).engine.profile =
      .ofTier (.serving requested) := rfl
  rw [profile, served] at unqueued
  exact ages_shrunk holds unqueued

/-- Without priority queuing every call keeps the order of insertion and evicts from its front. -/
theorem perform_ages (holds : e.store.Holds items) (usable : 0 < e.store.capacity)
    (fits : e.store.size ≤ e.store.capacity) {call : Call} {reply : Reply α Answer}
    (performed : e.perform now call = .ok reply) (unqueued : (Step.mk e now call reply).Unqueued) :
    ∃ left, e.store.Ages items (Step.mk e now call reply).evicted reply.engine.store left := by
  cases call with
  | message m =>
    obtain ⟨answer, answered, rfl⟩ := perform_message performed
    exact ages_message holds usable fits unqueued.before answered
  | activity peer =>
    obtain rfl := Except.ok.inj performed
    exact ages_idle holds (meet_store peer) rfl
  | cleanup =>
    obtain rfl := Except.ok.inj performed
    exact ⟨_, (holds.retain (e.isKept now)).1.ages_subset rfl List.filter_sublist.subset⟩
  | setTier requested =>
    obtain rfl := Except.ok.inj performed
    exact ages_setTier holds rfl unqueued.after
  | close =>
    obtain rfl := Except.ok.inj performed
    exact ages_idle holds rfl rfl

end Engine

/-! ### Single evictions and repeated sightings -/

/-- The victim was stored, and it is older than all other entries in all shards. -/
def EvictionMoment.TakesOldest (moment : EvictionMoment α) : Prop :=
  moment.victim ∈ moment.store.entries ∧
    ∀ entry ∈ moment.store.entries, entry ≠ moment.victim → moment.victim.seq < entry.seq

theorem EvictionMoment.Among.takesOldest {moment : EvictionMoment α} (among : moment.Among now items)
    (unqueued : moment.gate.profile.priorityQueuing = false) : moment.TakesOldest := by
  obtain ⟨kept, item, _, holds, takes, victim⟩ := among
  have oldest := holds.evictOne_oldest unqueued takes
  unfold TakesOldest Store.entries
  rw [victim]
  refine ⟨List.mem_map_of_mem (holds.perm.mem_iff.2 takes.member), fun entry stored different => ?_⟩
  obtain ⟨other, among, rfl⟩ := List.mem_map.1 stored
  exact oldest other (holds.perm.mem_iff.1 among) fun same => different (congrArg Prod.snd same)

namespace Step

variable {step : Step α}

/-- A gate that evicts for a call has the profile from before the call or from after it. -/
theorem Evicting.unqueued {gate : Engine α} (evicting : step.Evicting gate)
    (performed : step.before.perform step.now step.call = .ok step.reply)
    (unqueued : step.Unqueued) : gate.profile.priorityQueuing = false := by
  obtain ⟨before, now, call, reply⟩ := step
  cases evicting with
  | message _ arrived =>
    rw [(Engine.arrive_follows arrived).profile]
    exact unqueued.before
  | setTier called =>
    dsimp only at called performed
    subst called
    obtain rfl := Except.ok.inj performed
    exact unqueued.after

theorem moments_oldest (holds : step.before.store.Holds items)
    (performed : step.before.perform step.now step.call = .ok step.reply)
    (unqueued : step.Unqueued) : ∀ moment ∈ step.moments, moment.TakesOldest := by
  intro moment member
  obtain ⟨evicting, among⟩ := moments_among holds member
  exact among.takesOldest (evicting.unqueued performed unqueued)

omit [Scalar α] in
theorem keepsOrder_modify (holds : step.before.store.Holds items) {key : Key}
    {f : Entry α → Entry α} (seq_eq : ∀ entry, (f entry).seq = entry.seq)
    (modified : step.reply.engine.store = step.before.store.modify key f) : step.KeepsOrder := by
  refine ⟨?_, ?_, fun other => ?_⟩
  · rw [modified]
    rfl
  · rw [modified, Store.order_modify]
  · rw [modified, holds.get?_modify key other seq_eq]
    split
    · rename_i same
      rw [same, Option.map_map]
      congr 1
      funext entry
      exact seq_eq entry
    · rfl

/-- A duplicate and the restart of an expired entry leave the order as it is. -/
theorem keepsOrder_of_known (holds : step.before.store.Holds items)
    (usable : 0 < step.before.store.capacity)
    (fits : step.before.store.size ≤ step.before.store.capacity)
    (performed : step.before.perform step.now step.call = .ok step.reply)
    (known : step.admission?.map Admission.outcome = some .duplicate ∨
      step.admission?.map Admission.outcome = some .refreshed) : step.KeepsOrder := by
  obtain ⟨before, now, call, reply⟩ := step
  cases call with
  | message m =>
    obtain ⟨answer, answered, rfl⟩ := Engine.perform_message performed
    have receives := Engine.receive_receives answered
    cases asks : before.asked? m with
    | none =>
      obtain ⟨_, _, unadmitted⟩ := receives.unasked asks
      simp [admission?, unadmitted] at known
    | some key =>
      obtain ⟨a, arrived, admitted, same, _⟩ := receives.asked asks
      simp only [admission?, admitted, Option.map_some, Option.some.injEq] at known
      have admits := Engine.lookUp_admits holds usable fits arrived
      generalize Engine.lookUp now a m = admission at admits known same
      cases admits with
      | duplicate => exact keepsOrder_modify holds Engine.sightAgain_seq same
      | refreshed =>
        have restarts : ∀ old : Entry α,
            (old.restart now (a.engine.sighting a m).confidence).seq = old.seq := fun _ => rfl
        exact keepsOrder_modify holds restarts same
      | inserted | replaced => simp at known
  | activity | cleanup | setTier | close => simp [admission?] at known

end Step

/-! ### Whole runs -/

variable {c : Config α} {opened : Nat} {past : List (Step α)}

/-- All that was evicted so far went in the order of insertion, and it is older than all that is
stored and than all that is still to come. -/
theorem Run.evicted_older (run : Run c opened past e)
    (unqueued : ∀ step ∈ past, step.Unqueued) : ∃ items, e.store.Holds items ∧
      (past.reverse.flatMap Step.evicted).Pairwise (fun a b => a.seq < b.seq) ∧
      ∀ victim ∈ past.reverse.flatMap Step.evicted, victim.seq < e.store.nextSeq ∧
        ∀ item ∈ items, victim.seq < item.2.seq := by
  induction run with
  | start started =>
    obtain ⟨ordered, rfl⟩ := Engine.start_assemble started
    exact ⟨[], Store.holds_empty _ _ _, .nil, fun victim member => by cases member⟩
  | @call past e gate now call reply before reordered performed ih =>
    obtain ⟨own, others⟩ := List.forall_mem_cons.1 unqueued
    obtain ⟨items, held, ordered, older⟩ := ih others
    obtain ⟨_, _, first, usable, fits⟩ := before.ready reordered
    obtain ⟨store, sameStore, rfl⟩ := reordered
    have holds := held.reordered sameStore
    obtain ⟨left, ages⟩ := Engine.perform_ages holds usable fits performed own
    have same : store.nextSeq = e.store.nextSeq := sameStore.nextSeq
    simp only [List.reverse_cons, List.flatMap_append, List.flatMap_cons, List.flatMap_nil,
      List.append_nil]
    refine ⟨left, ages.holds, List.pairwise_append.2 ⟨ordered, ages.ordered, ?_⟩, ?_⟩
    · intro old earlier victim later
      obtain ⟨item, stored, rfl⟩ := ages.victims victim later
      exact (older old earlier).2 item stored
    · intro victim member
      rcases List.mem_append.1 member with earlier | later
      · obtain ⟨issued, lower⟩ := older victim earlier
        have soon : victim.seq < store.nextSeq := same.symm ▸ issued
        refine ⟨soon.trans_le ages.nextSeq, fun item among => ?_⟩
        rcases ages.origin item among with ⟨old, stored, number⟩ | new
        · exact number ▸ lower old stored
        · exact soon.trans_le new
      · obtain ⟨item, stored, rfl⟩ := ages.victims victim later
        exact ⟨(holds.issued item stored).trans_le ages.nextSeq, ages.first item.2 later⟩

/-- Without priority queuing entries are evicted in the order of their first insertion, over all
shards and the whole run. Neither another sighting nor a restart changes the place of an entry. -/
theorem Run.insertion_order (run : Run c opened past e)
    (unqueued : ∀ step ∈ past, step.Unqueued) :
    (∀ step ∈ past, step.moments.map EvictionMoment.victim = step.evicted ∧
      ∀ moment ∈ step.moments, moment.TakesOldest) ∧
    (past.reverse.flatMap Step.evicted).Pairwise (fun a b => a.seq < b.seq) ∧
    ∀ step ∈ past, step.admission?.map Admission.outcome = some .duplicate ∨
      step.admission?.map Admission.outcome = some .refreshed → step.KeepsOrder := by
  obtain ⟨_, _, ordered, _⟩ := run.evicted_older unqueued
  refine ⟨fun step member => ⟨step.moments_victims, ?_⟩, ordered, ?_⟩
  · refine run.forall_steps (P := fun step => step.Unqueued →
      ∀ moment ∈ step.moments, moment.TakesOldest) ?_ step member (unqueued step member)
    intro earlier before step ran reordered performed own
    obtain ⟨items, _, holds, _⟩ := ran.ready reordered
    exact Step.moments_oldest holds performed own
  · refine run.forall_steps fun earlier before step ran reordered performed known => ?_
    obtain ⟨items, _, holds, usable, fits⟩ := ran.ready reordered
    exact Step.keepsOrder_of_known holds usable fits performed known

/-- Settings of the FREE tier with room for two entries in two shards. -/
def pairConfig : Config Float := { Config.default with capacity := some 2, shards := some 2 }

/-- An entry that expired starts anew between insertions for which there is no room. -/
def crowdingCalls : List (Nat × Call) :=
  [(0, .message ⟨"a", "t", "", .empty⟩), (0, .message ⟨"b", "t", "", .empty⟩),
    (400000, .message ⟨"a", "t", "", .empty⟩), (400000, .message ⟨"c", "t", "", .empty⟩),
    (400000, .message ⟨"d", "t", "", .empty⟩), (400000, .setTier "BUSINESS")]

theorem insertion_order_crowding : ∃ (past : List (Step Float)) (e : Engine Float),
    Run pairConfig 0 past e ∧ past.map Step.request = crowdingCalls.reverse ∧
      (∀ step ∈ past, step.Unqueued) ∧
      (past.reverse.flatMap Step.evicted).map Entry.hash = ["a", "b"] ∧
      past.reverse.map (fun step => step.admission?.map Admission.outcome) =
        [some .inserted, some .inserted, some .refreshed, some .inserted, some .inserted, none] ∧
      (∀ step ∈ past, step.moments.map EvictionMoment.victim = step.evicted ∧
        ∀ moment ∈ step.moments, moment.TakesOldest) ∧
      (past.reverse.flatMap Step.evicted).Pairwise (fun a b => a.seq < b.seq) ∧
      ∀ step ∈ past, step.admission?.map Admission.outcome = some .duplicate ∨
        step.admission?.map Admission.outcome = some .refreshed → step.KeepsOrder := by
  have usable : pairConfig.problem? = none := by decide +kernel
  have traced : ((Engine.assemble pairConfig (by decide) 0).engine.trace crowdingCalls).toOption.any
      (fun past => past.all (fun step => !step.before.profile.priorityQueuing &&
          !step.reply.engine.profile.priorityQueuing) &&
        decide ((past.reverse.flatMap Step.evicted).map Entry.hash = ["a", "b"] ∧
          past.reverse.map (fun step => step.admission?.map Admission.outcome) =
            [some .inserted, some .inserted, some .refreshed, some .inserted, some .inserted,
              none])) = true := by
    decide +kernel
  obtain ⟨past, e, run, requests, facts⟩ := Run.of_trace usable traced
  obtain ⟨profiles, found⟩ := Bool.and_eq_true_iff.1 facts
  obtain ⟨victims, outcomes⟩ := of_decide_eq_true found
  have unqueued : ∀ step ∈ past, step.Unqueued := by
    intro step member
    have own := List.all_eq_true.1 profiles step member
    simp only [Bool.and_eq_true, Bool.not_eq_true'] at own
    exact ⟨own.1, own.2⟩
  exact ⟨past, e, run, requests, unqueued, victims, outcomes, run.insertion_order unqueued⟩

end GossipGate
