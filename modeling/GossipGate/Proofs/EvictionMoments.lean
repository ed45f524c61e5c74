import GossipGate.Proofs.Run

namespace GossipGate

/-- One eviction, with the gate that chose and the store that it chose from. -/
structure EvictionMoment (α : Type) where
  gate : Engine α
  store : Store α
  victim : Entry α

variable {α : Type} [Scalar α] {e : Engine α} {now : Nat} {s : Store α}
  {items : List (Key × Entry α)} {seen : Sighting α}

namespace Engine

/-- The evictions while a number of entries is asked for. -/
def evictManyMoments (e : Engine α) (now : Nat) : Nat → Store α → List (EvictionMoment α)
  | 0, _ => []
  | more + 1, store =>
    let eviction := e.evictOne now store
    match eviction.victim with
    | some victim => ⟨e, store, victim⟩ :: e.evictManyMoments now more eviction.left
    | none => []

/-- The evictions on the way of a sighting into the store. -/
def trackMoments (e : Engine α) (now : Nat) (seen : Sighting α) :
    Nat → Store α → List (EvictionMoment α)
  | 0, _ => []
  | attempts + 1, store =>
    match store.get? seen.key, store.insert? seen.key (seen.entry now) with
    | none, none =>
      let eviction := e.evictOne now store
      eviction.victim.toList.map (⟨e, store, ·⟩) ++ e.trackMoments now seen attempts eviction.left
    | _, _ => []

theorem evictManyMoments_victims (count : Nat) (s : Store α) :
    (e.evictManyMoments now count s).map EvictionMoment.victim = (e.evictMany now count s).2 := by
  induction count generalizing s with
  | zero => rfl
  | succ count ih =>
    unfold evictManyMoments evictMany
    cases taken : (e.evictOne now s).victim with
    | none => simp only [taken, List.map_nil]
    | some victim => simp only [taken, List.map_cons, ih]

theorem trackMoments_victims (attempts : Nat) (s : Store α) :
    (e.trackMoments now seen attempts s).map EvictionMoment.victim =
      (e.track now seen attempts s).evicted := by
  induction attempts generalizing s with
  | zero => rfl
  | succ attempts ih =>
    unfold trackMoments track
    cases s.get? seen.key with
    | some entry =>
      dsimp only
      split <;> rfl
    | none =>
      cases s.insert? seen.key (seen.entry now) with
      | some stored => rfl
      | none =>
        simp only [List.map_append, List.map_map, ih]
        congr 1
        exact List.map_id _

end Engine

/-- What is known at every eviction from a store: the entries are some of those that the store held
at first, and the victim is the one that the gate takes. -/
def EvictionMoment.Among (moment : EvictionMoment α) (now : Nat)
    (items : List (Key × Entry α)) : Prop :=
  ∃ kept item, kept.Sublist items ∧ moment.store.Holds kept ∧
    (moment.gate.evictOne now moment.store).Takes moment.store kept item ∧ moment.victim = item.2

theorem EvictionMoment.Among.mono {moment : EvictionMoment α} {kept : List (Key × Entry α)}
    (among : moment.Among now kept) (sublist : kept.Sublist items) : moment.Among now items := by
  obtain ⟨left, item, fewer, facts⟩ := among
  exact ⟨left, item, fewer.trans sublist, facts⟩

namespace Store

theorem Holds.evictOne_nil (holds : s.Holds []) (e : Engine α) (now : Nat) :
    e.evictOne now s = ⟨none, s⟩ := by
  unfold Engine.evictOne
  split
  · exact holds.evictOldest_nil
  · simp only [Store.evictLowest, (holds.lowest?_eq_none_iff _).2 rfl]

/-- An eviction takes one of the entries, or there is none to take. -/
theorem Holds.evictOne_cases (holds : s.Holds items) (e : Engine α) (now : Nat) :
    items = [] ∧ e.evictOne now s = ⟨none, s⟩ ∨
      ∃ item, (e.evictOne now s).Takes s items item := by
  cases items with
  | nil => exact Or.inl ⟨rfl, holds.evictOne_nil e now⟩
  | cons => exact Or.inr (holds.evictOne_takes e now (List.cons_ne_nil _ _))

theorem Holds.evictManyMoments_among (holds : s.Holds items) {count : Nat}
    {moment : EvictionMoment α} (member : moment ∈ e.evictManyMoments now count s) :
    moment.gate = e ∧ moment.Among now items := by
  induction count generalizing s items with
  | zero => cases member
  | succ count ih =>
    unfold Engine.evictManyMoments at member
    rcases holds.evictOne_cases e now with ⟨_, nothing⟩ | ⟨item, takes⟩
    · simp only [nothing] at member
      cases member
    · simp only [takes.victim] at member
      rcases List.mem_cons.1 member with rfl | later
      · exact ⟨rfl, items, item, List.Sublist.refl _, holds, takes, rfl⟩
      · obtain ⟨same, among⟩ := ih takes.left later
        exact ⟨same, among.mono List.filter_sublist⟩

theorem Holds.trackMoments_among (holds : s.Holds items) {attempts : Nat}
    {moment : EvictionMoment α} (member : moment ∈ e.trackMoments now seen attempts s) :
    moment.gate = e ∧ moment.Among now items := by
  induction attempts generalizing s items with
  | zero => cases member
  | succ attempts ih =>
    unfold Engine.trackMoments at member
    split at member
    · rcases holds.evictOne_cases e now with ⟨_, nothing⟩ | ⟨item, takes⟩
      · rw [nothing] at member
        exact ih holds member
      · simp only [takes.victim, Option.toList_some, List.map_cons, List.map_nil,
          List.singleton_append] at member
        rcases List.mem_cons.1 member with rfl | later
        · exact ⟨rfl, items, item, List.Sublist.refl _, holds, takes, rfl⟩
        · obtain ⟨same, among⟩ := ih takes.left later
          exact ⟨same, among.mono List.filter_sublist⟩
    · cases member

end Store

namespace Step

/-- The evictions of one call, in order. -/
def moments (step : Step α) : List (EvictionMoment α) :=
  match step.call with
  | .message m =>
    match step.before.asked? m, step.before.arrive step.now m with
    | some _, .ok a =>
      a.engine.trackMoments step.now (a.engine.sighting a m) Engine.maxAttempts a.engine.store
    | some _, .error _ => []
    | none, _ => []
  | .setTier requested =>
    let changed : Engine α := { step.before with profile := .ofTier (.serving requested) }
    let store := step.before.store.setCapacity (Tier.serving requested).capacity
    changed.evictManyMoments step.now (store.size - store.capacity) store
  | _ => []

/-- The gates that evict for a call. -/
inductive Evicting (step : Step α) : Engine α → Prop
  | message {m a} : step.call = .message m → step.before.arrive step.now m = .ok a →
      Evicting step a.engine
  | setTier {requested} : step.call = .setTier requested →
      Evicting step { step.before with profile := .ofTier (.serving requested) }

/-- The moments of a call are those at which its victims went. -/
theorem moments_victims (step : Step α) :
    step.moments.map EvictionMoment.victim = step.evicted := by
  obtain ⟨before, now, call, reply⟩ := step
  cases call with
  | message m =>
    unfold moments evicted admission? Engine.admission?
    dsimp only
    cases before.asked? m with
    | none => rfl
    | some key =>
      cases before.arrive now m with
      | error => rfl
      | ok a => exact Engine.trackMoments_victims _ _
  | setTier requested => exact Engine.evictManyMoments_victims _ _
  | activity | cleanup | close => rfl

/-- At every eviction of a call a gate that serves it takes one of the entries that were stored. -/
theorem moments_among {step : Step α} (holds : step.before.store.Holds items)
    {moment : EvictionMoment α} (member : moment ∈ step.moments) :
    step.Evicting moment.gate ∧ moment.Among step.now items := by
  obtain ⟨before, now, call, reply⟩ := step
  cases call with
  | message m =>
    unfold moments at member
    dsimp only at member holds
    cases asks : before.asked? m with
    | none =>
      rw [asks] at member
      cases member
    | some key =>
      cases arrived : before.arrive now m with
      | error =>
        rw [asks, arrived] at member
        cases member
      | ok a =>
        rw [asks, arrived] at member
        have stored : a.engine.store.Holds items := by
          rw [Engine.arrive_store arrived]
          exact holds
        obtain ⟨same, among⟩ := stored.trackMoments_among member
        exact ⟨same ▸ .message rfl arrived, among⟩
  | setTier requested =>
    obtain ⟨same, among⟩ :=
      (holds.setCapacity (Tier.serving requested).capacity).evictManyMoments_among member
    exact ⟨same ▸ .setTier rfl, among⟩
  | activity | cleanup | close => cases member

end Step

end GossipGate
