import GossipGate.Engine.Snapshot
import GossipGate.Proofs.AlikeStores
import GossipGate.Proofs.Run

namespace GossipGate

variable {α : Type}

/-- The same fault, or the same answer with the same events from gates that are alike but for their
stores. -/
inductive SameReply {β : Type} : Except Fault (Reply α β) → Except Fault (Reply α β) → Prop
  | fault {fault} : SameReply (.error fault) (.error fault)
  | reply {r : Reply α β} {store} : r.engine.store.Alike store →
      SameReply (.ok r) (.ok (r.withStore store))

theorem SameReply.map {β γ : Type} {a b : Except Fault (Reply α β)} (same : SameReply a b)
    (f : β → γ) : SameReply (a.map (Reply.map f)) (b.map (Reply.map f)) := by
  cases same with
  | fault => exact .fault
  | @reply r _ alike => exact .reply (r := r.map f) alike

variable [Scalar α] {e : Engine α} {store : Store α} {now : Nat} {m : Message}

/-- No score is NaN among those by which a call may have to choose whom to evict. -/
def Engine.Comparable (e : Engine α) (now : Nat) : Call → Prop
  | .message m => ∀ a, e.arrive now m = .ok a → a.engine.ScoresNumbers now e.store
  | .setTier requested =>
    ({ e with profile := .ofTier (.serving requested) } : Engine α).ScoresNumbers now e.store
  | _ => True

namespace Engine

theorem evictOne_withStore (s : Store α) :
    (e.withStore store).evictOne now s = e.evictOne now s := rfl

theorem track_withStore (seen : Sighting α) (attempts : Nat) (s : Store α) :
    (e.withStore store).track now seen attempts s = e.track now seen attempts s :=
  track_congr evictOne_withStore rfl seen attempts s

theorem shrink_withStore (s : Store α) :
    (e.withStore store).shrink now s = e.shrink now s := evictMany_congr evictOne_withStore _ s

variable [OrderedScalar α]

theorem lookUp_alike {a : Arrival α} (alike : a.engine.store.Alike store)
    (numbers : a.engine.ScoresNumbers now a.engine.store) :
    (lookUp now a m).Alike (lookUp now (a.withStore store) m) := by
  have apart : lookUp now (a.withStore store) m =
      a.engine.track now (a.engine.sighting a m) maxAttempts store :=
    track_withStore _ _ _
  rw [apart]
  exact alike.track numbers _ _

theorem resolve_same {a : Arrival α} (alike : a.engine.store.Alike store)
    (numbers : a.engine.ScoresNumbers now a.engine.store) :
    SameReply (resolve now a m) (resolve now (a.withStore store) m) := by
  have same := lookUp_alike (m := m) alike numbers
  have events : (a.withStore store).events ++
      (a.withStore store).engine.evictions (lookUp now (a.withStore store) m) =
        a.events ++ a.engine.evictions (lookUp now a m) := by
    simp only [evictions, same.evicted]
    rfl
  have apart : (a.withStore store).engine.withStore (lookUp now (a.withStore store) m).store =
      (a.engine.withStore (lookUp now a m).store).withStore
        (lookUp now (a.withStore store) m).store := rfl
  by_cases duplicate : (lookUp now a m).outcome = .duplicate
  · rw [resolve_duplicate duplicate, resolve_duplicate (same.outcome.trans duplicate), events,
      apart]
    have suppressed := suppress_withStore (e := a.engine.withStore (lookUp now a m).store) (m := m)
      (lookUp now (a.withStore store) m).store a
    have scorer : ∀ gate : Engine α, gate.suppress (a.withStore store) m = gate.suppress a m :=
      fun _ => rfl
    rw [scorer, suppressed]
    refine .reply (r := Reply.after _ _) ?_
    show ((a.engine.withStore (lookUp now a m).store).suppress a m).engine.store.Alike _
    rw [suppress_store]
    exact same.store
  · have other : (lookUp now (a.withStore store) m).outcome ≠ .duplicate := by
      rw [same.outcome]
      exact duplicate
    rw [resolve_other duplicate, resolve_other other, events, apart, same.outcome]
    have scorer : ∀ gate : Engine α, ∀ outcome, gate.pass now (a.withStore store) m outcome =
        gate.pass now a m outcome := fun _ _ => rfl
    rw [scorer, pass_withStore (e := a.engine.withStore (lookUp now a m).store)]
    cases passed : (a.engine.withStore (lookUp now a m).store).pass now a m
        (lookUp now a m).outcome with
    | error fault => exact .fault
    | ok reply =>
      refine .reply (r := Reply.after _ _) ?_
      show reply.engine.store.Alike _
      rw [pass_store passed]
      exact same.store

theorem receive_same (alike : e.store.Alike store) (numbers : e.Comparable now (.message m)) :
    SameReply (e.receive now m) ((e.withStore store).receive now m) := by
  unfold receive
  by_cases named : m.hash.isEmpty = true
  · simp only [named, if_true]
    exact .reply alike
  simp only [named, Bool.false_eq_true, if_false, arrive_withStore]
  cases arrived : e.arrive now m with
  | error fault => exact .fault
  | ok a =>
    have same := arrive_store arrived
    rw [← same] at alike
    have scores := numbers a arrived
    rw [← same] at scores
    by_cases blocked : a.isBlocked = true
    · have alsoBlocked : (a.withStore store).isBlocked = true := blocked
      simp only [bind, Except.bind, Except.map, blocked, alsoBlocked, if_true]
      exact .reply (r := block a m) alike
    · have unblocked : ¬(a.withStore store).isBlocked = true := blocked
      simp only [bind, Except.bind, Except.map, blocked, unblocked]
      exact resolve_same alike scores

omit [OrderedScalar α] in
theorem cleanup_same (alike : e.store.Alike store) :
    SameReply (.ok (e.cleanup now)) (.ok ((e.withStore store).cleanup now)) := by
  obtain ⟨count, left⟩ := alike.retain (e.isKept now)
  have size := left.size_eq
  have same : (e.withStore store).cleanup now =
      (e.cleanup now).withStore (store.retain (e.isKept now)).1 := by
    have kept : (e.withStore store).isKept now = e.isKept now := rfl
    simp only [cleanup, kept, withStore_store, withStore_peers, withStore_tuning, withStore_tier,
      count, size]
    rfl
  rw [same]
  exact .reply left

theorem shrunk_alike (alike : e.store.Alike store) (tier : Tier)
    (numbers : ({ e with profile := .ofTier tier } : Engine α).ScoresNumbers now e.store) :
    ((e.withStore store).shrunk now tier).2 = (e.shrunk now tier).2 ∧
      (e.shrunk now tier).1.Alike ((e.withStore store).shrunk now tier).1 := by
  have apart : (e.withStore store).shrunk now tier =
      { e with profile := .ofTier tier }.shrink now (store.setCapacity tier.capacity) :=
    shrink_withStore (e := { e with profile := .ofTier tier }) _
  rw [apart]
  exact (alike.setCapacity tier.capacity).shrink numbers

theorem setTier_same (alike : e.store.Alike store) {requested : String}
    (numbers : e.Comparable now (.setTier requested)) :
    SameReply (.ok (e.setTier now requested))
      (.ok ((e.withStore store).setTier now requested)) := by
  obtain ⟨evicted, left⟩ := shrunk_alike alike (.serving requested) numbers
  have pair : (e.withStore store).shrunk now (.serving requested) =
      (((e.withStore store).shrunk now (.serving requested)).1,
        (e.shrunk now (.serving requested)).2) := by
    rw [← evicted]
  rw [setTier_eq, setTier_eq, pair, retiered_withStore]
  refine .reply ?_
  rw [retiered_store]
  exact left

/-- One call goes the same way whatever the store that its entries are spread over. -/
theorem perform_same (alike : e.store.Alike store) {call : Call} (numbers : e.Comparable now call) :
    SameReply (e.perform now call) ((e.withStore store).perform now call) := by
  cases call with
  | message m => exact (receive_same alike numbers).map _
  | activity peer =>
    have met := meet_withStore (e := e) store now peer
    have same : (e.withStore store).trackPeer peer now = (e.trackPeer peer now).withStore store :=
      congrArg Prod.fst met
    simp only [perform, same]
    refine .reply (r := ⟨e.trackPeer peer now, Answer.done, []⟩) ?_
    show (e.meet peer now).1.store.Alike store
    rw [meet_store]
    exact alike
  | cleanup => exact (cleanup_same alike).map _
  | setTier requested => exact (setTier_same alike numbers).map _
  | close => exact .reply (r := e.close.map fun _ => Answer.done) alike

theorem admission?_same (alike : e.store.Alike store) (numbers : e.Comparable now (.message m)) :
    ((e.withStore store).admission? now m).map Admission.evicted =
      (e.admission? now m).map Admission.evicted := by
  have asked : (e.withStore store).asked? m = e.asked? m := rfl
  unfold admission?
  rw [asked, arrive_withStore]
  cases e.asked? m with
  | none => rfl
  | some key =>
    cases arrived : e.arrive now m with
    | error => rfl
    | ok a =>
      have same := arrive_store arrived
      rw [← same] at alike
      have scores := numbers a arrived
      rw [← same] at scores
      exact congrArg some (lookUp_alike alike scores).evicted

theorem evicted_same (alike : e.store.Alike store) {call : Call} (numbers : e.Comparable now call)
    (first second : Reply α Answer) :
    (Step.mk (e.withStore store) now call second).evicted = (Step.mk e now call first).evicted := by
  cases call with
  | message m => exact congrArg (fun evicted => evicted.getD []) (admission?_same alike numbers)
  | setTier requested => exact (shrunk_alike alike _ numbers).1
  | _ => rfl

/-- Two gates that are alike but for their stores. -/
def Alike (e f : Engine α) : Prop := ∃ store, e.store.Alike store ∧ f = e.withStore store

omit [Scalar α] [OrderedScalar α] in
theorem Alike.reordered {f first second : Engine α} (alike : e.Alike f) (left : e.Reordered first)
    (right : f.Reordered second) : first.Alike second := by
  obtain ⟨store, same, rfl⟩ := alike
  obtain ⟨one, oneSame, rfl⟩ := left
  obtain ⟨other, otherSame, rfl⟩ := right
  exact ⟨other, same.reordered oneSame otherSame, rfl⟩

omit [OrderedScalar α] in
/-- The number of shards decides about the empty store of a new gate only. -/
theorem start_alike {c : Config α} {shards : Option UInt64} {opened : Nat}
    {first second : Reply α Unit}
    (started : Engine.start c opened = .ok first)
    (alsoStarted : Engine.start { c with shards } opened = .ok second) :
    first.engine.Alike second.engine := by
  obtain ⟨ordered, rfl⟩ := start_assemble started
  obtain ⟨_, rfl⟩ := start_assemble alsoStarted
  exact ⟨Store.empty ({ c with shards } : Config α).effectiveShards c.effectiveCapacity
    Key.fingerprint, Store.alike_empty _ _ _ _, rfl⟩

end Engine

/-- What a call shows: its answer, its events and the entries that it evicted. -/
def Step.outcome (step : Step α) : Answer × List (Event α) × List (Entry α) :=
  (step.reply.value, step.reply.events, step.evicted)

/-- Two runs with the same calls stay alike but for their stores. -/
theorem Run.alike [OrderedScalar α] {c : Config α} {shards : Option UInt64} {opened : Nat}
    {past : List (Step α)} {e : Engine α} (run : Run c opened past e) :
    ∀ {others : List (Step α)} {f : Engine α}, Run { c with shards } opened others f →
      others.map Step.request = past.map Step.request →
      (∀ step ∈ past, step.before.Comparable step.now step.call) →
      others.map Step.outcome = past.map Step.outcome ∧ e.Alike f := by
  induction run with
  | start started =>
    intro others f other asked _
    cases other with
    | start alsoStarted => exact ⟨rfl, Engine.start_alike started alsoStarted⟩
    | call => simp at asked
  | @call past e gate now call reply _ reordered performed ih =>
    intro others f other asked comparable
    cases other with
    | start => simp at asked
    | @call others f second at_ same answer before alsoReordered alsoPerformed =>
      simp only [List.map_cons, List.cons.injEq, Step.request, Prod.mk.injEq] at asked
      obtain ⟨⟨rfl, rfl⟩, asked⟩ := asked
      -- Both gates may have been reordered since, each in its own way.
      obtain ⟨outcomes, alike⟩ := ih before asked fun step member =>
        comparable step (List.mem_cons_of_mem _ member)
      obtain ⟨store, stores, rfl⟩ := alike.reordered reordered alsoReordered
      have numbers := comparable _ List.mem_cons_self
      have replies := Engine.perform_same stores numbers
      have evicted := Engine.evicted_same stores numbers reply answer
      rw [performed, alsoPerformed] at replies
      cases replies with
      | reply left =>
        refine ⟨?_, _, left, rfl⟩
        simp only [List.map_cons, outcomes, Step.outcome, evicted]
        rfl

/-- The number of shards cannot be observed: with the same calls two gates answer the same, tell
the same events, evict the same entries in the same order, hold the same entries under the same
keys, and show the same statistics but for the number itself. So they do with every further call. -/
theorem shards_unobservable [OrderedScalar α] {c : Config α} {shards : Option UInt64} {opened : Nat}
    {past others : List (Step α)} {e f : Engine α} (run : Run c opened past e)
    (other : Run { c with shards } opened others f)
    (asked : others.map Step.request = past.map Step.request)
    (comparable : ∀ step ∈ past, step.before.Comparable step.now step.call) :
    others.map Step.outcome = past.map Step.outcome ∧
      (∀ key, f.store.get? key = e.store.get? key) ∧
      f.snapshot = { e.snapshot with shards := f.store.shards.length } ∧
      ∀ first second now call, e.Reordered first → f.Reordered second →
        first.Comparable now call →
        SameReply (first.perform now call) (second.perform now call) := by
  obtain ⟨outcomes, alike⟩ := run.alike other asked comparable
  refine ⟨outcomes, ?_, ?_, ?_⟩
  · obtain ⟨store, same, rfl⟩ := alike
    exact same.get?_eq
  · obtain ⟨store, same, rfl⟩ := alike
    simp only [Engine.snapshot, Engine.withStore_store, same.capacity_eq, same.size_eq]
    rfl
  · intro first second now call left right numbers
    obtain ⟨store, same, rfl⟩ := alike.reordered left right
    exact Engine.perform_same same numbers

/-- Two messages for which there is room for one, in one shard or in 64. -/
theorem shards_unobservable_crowded : ∃ (past others : List (Step Float)) (e f : Engine Float),
    Run (crowdedConfig (some 1)) 0 past e ∧ Run (crowdedConfig (some 64)) 0 others f ∧
      (past.flatMap Step.evicted).length = 1 ∧ others.map Step.outcome = past.map Step.outcome := by
  have usable : (crowdedConfig (some 1)).problem? = none := by decide +kernel
  have alsoUsable : (crowdedConfig (some 64)).problem? = none := by decide +kernel
  let opened := (Engine.assemble (crowdedConfig (some 1)) (by decide) 0).engine
  let spread := (Engine.assemble (crowdedConfig (some 64)) (by decide) 0).engine
  let a : Message := ⟨"a", "block", "", .empty⟩
  let b : Message := ⟨"b", "block", "", .empty⟩
  have facts : (match opened.perform 0 (.message a) with
      | .ok first =>
        match first.engine.perform 1 (.message b), first.engine.arrive 1 b with
        | .ok second, .ok arrival =>
          decide (([⟨first.engine, 1, .message b, second⟩, ⟨opened, 0, .message a, first⟩].flatMap
            Step.evicted).length = 1) &&
          first.engine.store.toList.all fun item =>
            let score := item.2.retention arrival.engine.profile
              (arrival.engine.ownerScore? item.2) 1
            score == score
        | _, _ => false
      | .error _ => false) = true := by
    decide +kernel
  have alsoRuns : (match spread.run [(0, .message a), (1, .message b)] with
      | .ok _ => true
      | .error _ => false) = true := by
    decide +kernel
  cases ran : spread.run [(0, .message a), (1, .message b)] with
  | error => simp only [ran, Bool.false_eq_true] at alsoRuns
  | ok reply =>
    cases first : opened.perform 0 (.message a) with
    | error => simp only [first, Bool.false_eq_true] at facts
    | ok one =>
      cases second : one.engine.perform 1 (.message b) with
      | error => simp only [first, second, Bool.false_eq_true] at facts
      | ok two =>
        cases arrived : one.engine.arrive 1 b with
        | error => simp only [first, second, arrived, Bool.false_eq_true] at facts
        | ok arrival =>
          simp only [first, second, arrived, Bool.and_eq_true, decide_eq_true_eq,
            List.all_eq_true] at facts
          have run := ((Run.start (Engine.start_eq usable 0)).call (Engine.Reordered.refl _)
            first).call (Engine.Reordered.refl _) second
          obtain ⟨others, other, requests, _⟩ :=
            (Run.start (Engine.start_eq alsoUsable 0)).extend ran
          rw [List.append_nil] at other
          have calls : others.map Step.request = [(1, .message b), (0, .message a)] := by
            rw [← List.reverse_inj, ← List.map_reverse, requests]
            rfl
          have comparable : ∀ step ∈ [(⟨one.engine, 1, .message b, two⟩ : Step Float),
              ⟨opened, 0, .message a, one⟩], step.before.Comparable step.now step.call := by
            intro step member
            rcases List.mem_pair.mp member with rfl | rfl
            · intro reached same _ item stored
              obtain rfl := Except.ok.inj (arrived.symm.trans same)
              exact facts.2 item stored
            · intro _ _ _ item stored
              cases stored
          have spreadOut : Run { crowdedConfig (some 1) with shards := some 64 } 0 others _ := other
          exact ⟨_, others, _, _, run, other, facts.1,
            (shards_unobservable run spreadOut calls comparable).1⟩

end GossipGate
