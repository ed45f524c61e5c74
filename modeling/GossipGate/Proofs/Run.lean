import GossipGate.Proofs.Admission
import GossipGate.Proofs.ConfigChecks
import GossipGate.Proofs.Decision

namespace GossipGate

variable {α : Type} [Scalar α]

/-- One call that a gate answered, with the gate before it and the clock reading. -/
structure Step (α : Type) where
  before : Engine α
  now : Nat
  call : Call
  reply : Reply α Answer

/-- The same gate with the tables of its shards in another order. -/
def Engine.Reordered (e gate : Engine α) : Prop :=
  ∃ store, e.store.Reordered store ∧ gate = e.withStore store

/-- A gate opened with settings that pass the checks, and the calls it answered, the latest first.
Before each call the tables of the shards may change their order. -/
inductive Run (c : Config α) (opened : Nat) : List (Step α) → Engine α → Prop
  | start {reply} : Engine.start c opened = .ok reply → Run c opened [] reply.engine
  | call {past e gate now call reply} : Run c opened past e → e.Reordered gate →
      gate.perform now call = .ok reply →
      Run c opened (⟨gate, now, call, reply⟩ :: past) reply.engine

/-- The store after a change of tier, with the entries that did not fit. -/
def Engine.shrunk (e : Engine α) (now : Nat) (tier : Tier) : Store α × List (Entry α) :=
  { e with profile := .ofTier tier }.shrink now (e.store.setCapacity tier.capacity)

namespace Engine

/-- What a change of tier makes of the store and the evictions that it caused. -/
def retiered (e : Engine α) (requested : String) (shrunk : Store α × List (Entry α)) :
    Reply α Unit :=
  let profile := Profile.ofTier (.serving requested)
  { engine := { e with profile, store := shrunk.1 }
    value := ()
    events := Event.ofTierRequest requested ++
      shrunk.2.map (.evicted (.serving requested) (.ofProfile profile)) ++
      [.tierChanged e.tier (.serving requested) (Tier.serving requested).capacity] }

omit [Scalar α] in
theorem retiered_store (e : Engine α) (requested : String) (shrunk : Store α × List (Entry α)) :
    (e.retiered requested shrunk).engine.store = shrunk.1 := rfl

omit [Scalar α] in
theorem retiered_withStore (e : Engine α) (store : Store α) (requested : String) (kept : Store α)
    (shrunk : Store α × List (Entry α)) :
    (e.withStore store).retiered requested (kept, shrunk.2) =
      (e.retiered requested shrunk).withStore kept := rfl

theorem setTier_eq (e : Engine α) (now : Nat) (requested : String) :
    e.setTier now requested = e.retiered requested (e.shrunk now (.serving requested)) := rfl

end Engine

namespace Step

/-- What was asked of a gate, and when. -/
def request (step : Step α) : Nat × Call := (step.now, step.call)

/-- The key that a call asks the store for. -/
def asked? (step : Step α) : Option Key :=
  match step.call with
  | .message m => step.before.asked? m
  | _ => none

def admission? (step : Step α) : Option (Admission α) :=
  match step.call with
  | .message m => step.before.admission? step.now m
  | _ => none

/-- How many entries a call stored anew. -/
def inserted (step : Step α) : Nat :=
  if step.admission?.map Admission.outcome = some .inserted then 1 else 0

/-- The entries that a call evicted, in order. -/
def evicted (step : Step α) : List (Entry α) :=
  match step.call with
  | .setTier requested => (step.before.shrunk step.now (.serving requested)).2
  | _ => (step.admission?.map Admission.evicted).getD []

/-- How many entries a call reports as removed by a cleanup. -/
def removed (step : Step α) : Nat :=
  match step.reply.value with
  | .removed counts => counts.entries
  | _ => 0

/-- Whether a call brought a message with a hash of some type. -/
def Brings (step : Step α) (messageType : String) : Prop :=
  ∃ m, step.call = .message m ∧ m.hash.isEmpty = false ∧ m.messageType = messageType

/-- What a call leaves in the store, and where the entries went that it does not leave. -/
structure Accounts (step : Step α) (items left : List (Key × Entry α)) : Prop where
  holds : step.reply.engine.store.Holds left
  usable : 0 < step.reply.engine.store.capacity
  fits : left.length ≤ step.reply.engine.store.capacity
  origin : ∀ item ∈ left, item ∈ items ∧ step.asked? ≠ some item.1 ∨
    step.asked? = some item.1 ∧ item.2.lastSeen = step.now ∧
      (item.1.Describes item.2 ∨ ∃ old, (item.1, old) ∈ items ∧ item.2.SameMessage old)
  brought : ∀ item ∈ left, (∃ old ∈ items, old.2.messageType = item.2.messageType) ∨
    step.Brings item.2.messageType
  balance : left.length + step.evicted.length + step.removed = items.length + step.inserted

end Step

namespace Engine

variable {e : Engine α} {items : List (Key × Entry α)} {now : Nat}

/-- A call that leaves the store alone accounts for nothing. -/
theorem accounts_idle (holds : e.store.Holds items) (usable : 0 < e.store.capacity)
    (fits : e.store.size ≤ e.store.capacity) {call : Call} {reply : Reply α Answer}
    (same : reply.engine.store = e.store)
    (unasked : (Step.mk e now call reply).asked? = none)
    (unadmitted : (Step.mk e now call reply).admission? = none)
    (unremoved : (Step.mk e now call reply).removed = 0)
    (unevicted : (Step.mk e now call reply).evicted = []) :
    Step.Accounts ⟨e, now, call, reply⟩ items items := by
  refine ⟨same ▸ holds, same ▸ usable, ?_, ?_, fun item member => Or.inl ⟨item, member, rfl⟩, ?_⟩
  · rw [same, ← holds.size_eq]
    exact fits
  · intro item member
    exact Or.inl ⟨member, by simp [unasked]⟩
  · simp [unremoved, unevicted, Step.inserted, unadmitted]

theorem lookUp_admits {m : Message} {a : Arrival α} (holds : e.store.Holds items)
    (usable : 0 < e.store.capacity) (fits : e.store.size ≤ e.store.capacity)
    (arrived : e.arrive now m = .ok a) :
    Admits a.engine now (a.engine.sighting a m) e.store items (lookUp now a m) := by
  unfold lookUp
  rw [arrive_store arrived]
  exact track_admits holds usable fits 6

theorem accounts_message (holds : e.store.Holds items) (usable : 0 < e.store.capacity)
    (fits : e.store.size ≤ e.store.capacity) {m : Message} {reply : Reply α Bool}
    (answered : e.receive now m = .ok reply) :
    ∃ left, Step.Accounts ⟨e, now, .message m, reply.map .verdict⟩ items left := by
  have receives := receive_receives answered
  cases asks : e.asked? m with
  | none =>
    obtain ⟨same, _, unadmitted⟩ := receives.unasked asks
    refine ⟨items, accounts_idle holds usable fits same asks unadmitted rfl ?_⟩
    simp only [Step.evicted, Step.admission?, unadmitted, Option.map_none, Option.getD_none]
  | some key =>
    obtain ⟨a, arrived, admitted, same, _⟩ := receives.asked asks
    have follows := arrive_follows arrived
    obtain ⟨named, own⟩ := asked?_eq_some asks
    have key_eq : (a.engine.sighting a m).key = key := follows.key.trans own.symm
    let step : Step α := ⟨e, now, .message m, reply.map .verdict⟩
    have asked : step.asked? = some key := asks
    have admission : step.admission? = some (lookUp now a m) := admitted
    have evicted : step.evicted = (lookUp now a m).evicted := by
      show (step.admission?.map Admission.evicted).getD [] = _
      rw [admission]
      rfl
    obtain ⟨left, settles⟩ := (lookUp_admits holds usable fits arrived).settles holds fits
    refine ⟨left, ?_, ?_, ?_, ?_, ?_, ?_⟩
    · show reply.engine.store.Holds left
      rw [same]
      exact settles.holds
    · show 0 < reply.engine.store.capacity
      rw [same, settles.capacity]
      exact usable
    · show left.length ≤ reply.engine.store.capacity
      rw [same, settles.capacity]
      exact settles.fits
    · intro item member
      rw [asked]
      have origin := settles.origin item member
      rw [key_eq] at origin
      rcases origin with ⟨stored, other⟩ | ⟨own, seen, first | again⟩
      · exact Or.inl ⟨stored, fun same => other (Option.some.inj same).symm⟩
      · refine Or.inr ⟨congrArg some own.symm, seen, Or.inl ?_⟩
        rw [own, ← key_eq]
        exact (Key.describes_build a.engine.profile rfl).congr first
      · exact Or.inr ⟨congrArg some own.symm, seen, Or.inr (own ▸ again)⟩
    · intro item member
      rcases settles.origin item member with ⟨stored, _⟩ | ⟨_, _, first | ⟨old, stored, same⟩⟩
      · exact Or.inl ⟨item, stored, rfl⟩
      · exact Or.inr ⟨m, rfl, named, first.messageType.symm⟩
      · exact Or.inl ⟨_, stored, same.messageType.symm⟩
    · show left.length + step.evicted.length + 0 = items.length + step.inserted
      rw [evicted, Step.inserted, admission, Nat.add_zero, settles.balance]
      simp only [Option.map_some, Option.some.injEq]

theorem accounts_cleanup (holds : e.store.Holds items) (usable : 0 < e.store.capacity)
    (fits : e.store.size ≤ e.store.capacity) :
    ∃ left, Step.Accounts ⟨e, now, .cleanup, (e.cleanup now).map .removed⟩ items left := by
  obtain ⟨left, count⟩ := holds.retain (e.isKept now)
  have fewer := List.length_filter_le (fun item => e.isKept now item.2) items
  have size := holds.size_eq
  refine ⟨_, left, usable, ?_, ?_,
    fun item member => Or.inl ⟨item, List.mem_of_mem_filter member, rfl⟩, ?_⟩
  · show _ ≤ e.store.capacity
    omega
  · intro item member
    exact Or.inl ⟨List.mem_of_mem_filter member, by simp [Step.asked?]⟩
  · show _ + 0 + (e.store.retain (e.isKept now)).2 = _ + 0
    rw [count]
    omega

theorem accounts_setTier (holds : e.store.Holds items) (requested : String) :
    ∃ left, Step.Accounts
      ⟨e, now, .setTier requested, (e.setTier now requested).map fun _ => .done⟩ items left := by
  -- The tier stays a variable: nothing depends on what its settings are.
  generalize tier_eq : Tier.serving requested = tier
  have store : (e.setTier now requested).engine.store = (e.shrunk now tier).1 := by
    rw [setTier_eq, retiered_store, tier_eq]
  have evicted : (Step.mk e now (.setTier requested) ((e.setTier now requested).map fun _ =>
      .done)).evicted = (e.shrunk now tier).2 := by
    simp only [Step.evicted, tier_eq]
  have capacity_pos : 0 < tier.capacity := by
    cases tier <;> decide
  obtain ⟨left, leftHolds, sublist, length, fits, capacity⟩ :=
    (holds.setCapacity tier.capacity).shrink_leaves { e with profile := .ofTier tier } now
  refine ⟨left, ?_, ?_, ?_, ?_,
    fun item member => Or.inl ⟨item, sublist.subset member, rfl⟩, ?_⟩
  · show (e.setTier now requested).engine.store.Holds left
    rw [store]
    exact leftHolds
  · show 0 < (e.setTier now requested).engine.store.capacity
    rw [store, shrunk, capacity]
    exact capacity_pos
  · show left.length ≤ (e.setTier now requested).engine.store.capacity
    rw [store, shrunk, capacity]
    exact fits
  · intro item member
    exact Or.inl ⟨sublist.subset member, by simp [Step.asked?]⟩
  · rw [evicted]
    exact length

/-- Every call accounts for all entries. -/
theorem perform_accounts (holds : e.store.Holds items) (usable : 0 < e.store.capacity)
    (fits : e.store.size ≤ e.store.capacity) {call : Call} {reply : Reply α Answer}
    (performed : e.perform now call = .ok reply) :
    ∃ left, Step.Accounts ⟨e, now, call, reply⟩ items left := by
  cases call with
  | message m =>
    obtain ⟨answer, answered, rfl⟩ := perform_message performed
    exact accounts_message holds usable fits answered
  | activity peer =>
    obtain rfl := Except.ok.inj performed
    exact ⟨items, accounts_idle holds usable fits (meet_store peer) rfl rfl rfl rfl⟩
  | cleanup =>
    obtain rfl := Except.ok.inj performed
    exact accounts_cleanup holds usable fits
  | setTier requested =>
    obtain rfl := Except.ok.inj performed
    exact accounts_setTier holds requested
  | close =>
    obtain rfl := Except.ok.inj performed
    exact ⟨items, accounts_idle holds usable fits rfl rfl rfl rfl rfl⟩

end Engine

omit [Scalar α] in
theorem Engine.Reordered.refl (e : Engine α) : e.Reordered e :=
  ⟨e.store, Store.Reordered.refl e.store, rfl⟩

theorem Config.capacity_pos {c : Config α} (usable : c.problem? = none) :
    0 < c.effectiveCapacity := (fits usable).capacity

/-- Settings that pass the checks open a gate. -/
theorem Engine.start_eq {c : Config α} (usable : c.problem? = none) (opened : Nat) :
    Engine.start c opened = .ok (assemble c (Config.minTtl_le_maxTtl usable) opened) := by
  unfold Engine.start
  split
  · rename_i problem found
    rw [usable] at found
    cases found
  · rfl

theorem Engine.start_assemble {c : Config α} {opened : Nat} {reply : Reply α Unit}
    (started : Engine.start c opened = .ok reply) :
    ∃ ordered, reply = assemble c ordered opened := by
  unfold Engine.start at started
  split at started
  · cases started
  · exact ⟨_, (Except.ok.inj started).symm⟩

theorem Engine.start_usable {c : Config α} {opened : Nat} {reply : Reply α Unit}
    (started : Engine.start c opened = .ok reply) : c.problem? = none := by
  unfold Engine.start at started
  split at started
  · cases started
  · rename_i usable
    exact usable

omit [Scalar α] in
theorem Engine.Reordered.ready {e gate : Engine α} {items : List (Key × Entry α)}
    (reordered : e.Reordered gate) (holds : e.store.Holds items) (usable : 0 < e.store.capacity)
    (fits : items.length ≤ e.store.capacity) : gate.store.Holds items ∧ 0 < gate.store.capacity ∧
      gate.store.size ≤ gate.store.capacity := by
  obtain ⟨store, sameStore, rfl⟩ := reordered
  have again := holds.reordered sameStore
  refine ⟨again, ?_, ?_⟩
  · show 0 < store.capacity
    rw [sameStore.capacity]
    exact usable
  · show store.size ≤ store.capacity
    rw [again.size_eq, sameStore.capacity]
    exact fits

/-- Calls that are carried out one after another extend a run. -/
theorem Run.extend {c : Config α} {opened : Nat} {past : List (Step α)} {e : Engine α}
    (run : Run c opened past e) {calls : List (Nat × Call)} {reply : Reply α (List Answer)}
    (ran : e.run calls = .ok reply) : ∃ later, Run c opened (later ++ past) reply.engine ∧
      later.reverse.map Step.request = calls ∧
      later.reverse.map (fun step => step.reply.value) = reply.value ∧
      later.reverse.flatMap (fun step => step.reply.events) = reply.events := by
  induction calls generalizing past e reply with
  | nil =>
    cases ran
    exact ⟨[], run, rfl, rfl, rfl⟩
  | cons call calls ih =>
    obtain ⟨now, call⟩ := call
    obtain ⟨first, performed, others⟩ := bind_eq_ok ran
    obtain ⟨last, rest, gathered⟩ := bind_eq_ok others
    cases gathered
    obtain ⟨later, extended, requests, answers, events⟩ :=
      ih (run.call (Engine.Reordered.refl e) performed) rest
    refine ⟨later ++ [⟨e, now, call, first⟩], ?_, ?_, ?_, ?_⟩
    · rw [List.append_assoc]
      exact extended
    · simp [requests, Step.request]
    · simp [answers]
    · simp [events]

/-- Whether a gate answers calls one after another and has a property after them. -/
def Engine.reaches (e : Engine α) (calls : List (Nat × Call)) (P : Engine α → Bool) : Bool :=
  match e.run calls with
  | .ok reply => P reply.engine
  | .error _ => false

/-- What a gate reaches, it reaches in a run of just these calls. -/
theorem Run.of_requests {c : Config α} (usable : c.problem? = none) {ordered : c.minTtl ≤ c.maxTtl}
    {opened : Nat} {calls : List (Nat × Call)} {P : Engine α → Bool}
    (reaches : (Engine.assemble c ordered opened).engine.reaches calls P = true) :
    ∃ past e, Run c opened past e ∧ past.map Step.request = calls.reverse ∧ P e = true := by
  unfold Engine.reaches at reaches
  split at reaches
  · rename_i reply ran
    obtain ⟨past, run, requests, _⟩ := (Run.start (Engine.start_eq usable opened)).extend ran
    rw [List.append_nil] at run
    refine ⟨past, reply.engine, run, ?_, reaches⟩
    rw [← requests, List.map_reverse, List.reverse_reverse]
  · cases reaches

theorem Run.of_reaches {c : Config α} (usable : c.problem? = none) {ordered : c.minTtl ≤ c.maxTtl}
    {opened : Nat} {calls : List (Nat × Call)} {P : Engine α → Bool}
    (reaches : (Engine.assemble c ordered opened).engine.reaches calls P = true) :
    ∃ past e, Run c opened past e ∧ past.length = calls.length ∧
      (∀ step ∈ past, step.request ∈ calls) ∧ P e = true := by
  obtain ⟨past, e, run, requests, holds⟩ := Run.of_requests usable reaches
  refine ⟨past, e, run, ?_, fun step member => ?_, holds⟩
  · rw [← List.length_map (f := Step.request), requests, List.length_reverse]
  · rw [← List.mem_reverse, ← requests]
    exact List.mem_map_of_mem member

/-- The calls that a gate answers one after another with all that they do, the latest first. -/
def Engine.trace (e : Engine α) : List (Nat × Call) → Except Fault (List (Step α))
  | [] => .ok []
  | (now, call) :: rest => do
    let reply ← e.perform now call
    let later ← reply.engine.trace rest
    return later ++ [⟨e, now, call, reply⟩]

theorem Run.extend_trace {c : Config α} {opened : Nat} {past later : List (Step α)} {e : Engine α}
    (run : Run c opened past e) {calls : List (Nat × Call)} (traced : e.trace calls = .ok later) :
    ∃ last, Run c opened (later ++ past) last ∧ later.map Step.request = calls.reverse := by
  induction calls generalizing past later e with
  | nil =>
    cases traced
    exact ⟨e, run, rfl⟩
  | cons call calls ih =>
    obtain ⟨now, call⟩ := call
    obtain ⟨reply, performed, others⟩ := bind_eq_ok traced
    obtain ⟨rest, followed, gathered⟩ := bind_eq_ok others
    cases gathered
    obtain ⟨last, extended, requests⟩ := ih (run.call (.refl e) performed) followed
    refine ⟨last, ?_, by simp [requests, Step.request]⟩
    rw [List.append_assoc]
    exact extended

omit [Scalar α] in
theorem Step.forall_now {past : List (Step α)} {calls : List (Nat × Call)} {P : Nat → Prop}
    (requests : past.map Step.request = calls.reverse) (each : ∀ call ∈ calls, P call.1) :
    ∀ step ∈ past, P step.now := by
  intro step member
  have among : step.request ∈ past.map Step.request := List.mem_map_of_mem member
  rw [requests, List.mem_reverse] at among
  exact each step.request among

theorem Run.of_trace {c : Config α} (usable : c.problem? = none) {ordered : c.minTtl ≤ c.maxTtl}
    {opened : Nat} {calls : List (Nat × Call)} {P : List (Step α) → Bool}
    (traced : ((Engine.assemble c ordered opened).engine.trace calls).toOption.any P = true) :
    ∃ past e, Run c opened past e ∧ past.map Step.request = calls.reverse ∧ P past = true := by
  cases result : (Engine.assemble c ordered opened).engine.trace calls with
  | error => simp [result, Except.toOption] at traced
  | ok past =>
    simp only [result, Except.toOption, Option.any_some] at traced
    obtain ⟨e, run, requests⟩ := (Run.start (Engine.start_eq usable opened)).extend_trace result
    rw [List.append_nil] at run
    exact ⟨past, e, run, requests, traced⟩

/-- Only settings that pass the checks open a gate. -/
theorem Run.start_usable {c : Config α} {opened : Nat} {past : List (Step α)} {e : Engine α}
    (run : Run c opened past e) : c.problem? = none := by
  induction run with
  | start started => exact Engine.start_usable started
  | call _ _ _ ih => exact ih

/-- What holds of every call that is answered after some run holds of all calls of a run. -/
theorem Run.forall_steps {c : Config α} {opened : Nat} {past : List (Step α)} {e : Engine α}
    (run : Run c opened past e) {P : Step α → Prop}
    (each : ∀ earlier before step, Run c opened earlier before → before.Reordered step.before →
      step.before.perform step.now step.call = .ok step.reply → P step) : ∀ step ∈ past, P step := by
  induction run with
  | start =>
    intro step member
    cases member
  | call before reordered performed ih =>
    exact List.forall_mem_cons.2 ⟨each _ _ _ before reordered performed, ih⟩

/-- What holds of a new gate and is kept by every call that accounts for its entries holds along
every run. -/
theorem Run.invariant {c : Config α} {opened : Nat} {past : List (Step α)} {e : Engine α}
    {P : List (Step α) → List (Key × Entry α) → Prop} (run : Run c opened past e) (first : P [] [])
    (next : ∀ step past items left, P past items →
      step.before.perform step.now step.call = .ok step.reply → step.Accounts items left →
        P (step :: past) left) :
    ∃ items, e.store.Holds items ∧ 0 < e.store.capacity ∧ items.length ≤ e.store.capacity ∧
      P past items := by
  induction run with
  | start started =>
    have capacity_pos := Config.capacity_pos (Engine.start_usable started)
    obtain ⟨ordered, rfl⟩ := Engine.start_assemble started
    exact ⟨[], Store.holds_empty _ _ _, capacity_pos, Nat.zero_le _, first⟩
  | @call past e gate now call reply _ reordered performed ih =>
    obtain ⟨items, holds, usable, fits, kept⟩ := ih
    obtain ⟨again, usableAgain, fitsAgain⟩ := reordered.ready holds usable fits
    obtain ⟨left, accounts⟩ := Engine.perform_accounts again usableAgain fitsAgain performed
    exact ⟨left, accounts.holds, accounts.usable, accounts.fits,
      next _ _ _ _ kept performed accounts⟩

/-- A gate that takes over along a run stores what the gate before it did. -/
theorem Run.ready {c : Config α} {opened : Nat} {past : List (Step α)} {e gate : Engine α}
    (run : Run c opened past e) (reordered : e.Reordered gate) :
    ∃ items, e.store.Holds items ∧ gate.store.Holds items ∧ 0 < gate.store.capacity ∧
      gate.store.size ≤ gate.store.capacity := by
  obtain ⟨items, held, room, bounded, _⟩ :=
    run.invariant (P := fun _ _ => True) trivial fun _ _ _ _ _ _ _ => trivial
  obtain ⟨holds, usable, fits⟩ := reordered.ready held room bounded
  exact ⟨items, held, holds, usable, fits⟩

/-- Settings of the ENTERPRISE tier with room for a single entry. -/
def crowdedConfig (shards : Option UInt64) : Config Float :=
  { Config.ofTier .enterprise with capacity := some 1, shards }

end GossipGate
