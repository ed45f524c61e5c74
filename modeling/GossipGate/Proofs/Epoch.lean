import GossipGate.Proofs.Determinism
import GossipGate.Proofs.LaterCalls

namespace GossipGate

variable {α : Type} [Scalar α] {e : Engine α} {shift now : Nat} {m : Message}

namespace Engine

omit [Scalar α] in
theorem Reordered.later {gate : Engine α} (reordered : e.Reordered gate) (shift : Nat) :
    (e.later shift).Reordered (gate.later shift) := by
  obtain ⟨store, same, rfl⟩ := reordered
  exact ⟨_, same.mapEntries, rfl⟩

/-- A new gate knows no reading of the clock but that of its opening. -/
theorem start_later {c : Config α} {opened : Nat} {reply : Reply α Unit}
    (started : Engine.start c opened = .ok reply) (shift : Nat) :
    Engine.start c (opened + shift) = .ok (reply.later shift) := by
  have usable := start_usable started
  obtain ⟨ordered, rfl⟩ := start_assemble started
  have empty : (Store.empty c.effectiveShards c.effectiveCapacity Key.fingerprint).mapEntries
      (Entry.later shift : Entry α → Entry α) = Store.empty _ _ _ := Store.mapEntries_empty _ _ _
  rw [start_eq usable]
  unfold assemble Reply.later Engine.later
  rw [empty]
  rfl

omit [Scalar α] in
theorem asked?_later : (e.later shift).asked? m = e.asked? m := by
  have blocks : (e.later shift).blocks m = e.blocks m := by
    unfold blocks
    rw [peer?_later, Option.any_map]
    rfl
  unfold asked?
  rw [blocks]
  rfl

theorem admission?_later : (e.later shift).admission? (now + shift) m =
    (e.admission? now m).map (Admission.mapEntries (Entry.later shift)) := by
  unfold admission?
  rw [asked?_later, arrive_later]
  cases e.asked? m with
  | none => rfl
  | some key =>
    cases e.arrive now m with
    | error => rfl
    | ok a => exact congrArg some (lookUp_later _ _ a)

end Engine

/-- The same call by a clock that runs ahead. -/
def Step.later (shift : Nat) (step : Step α) : Step α :=
  ⟨step.before.later shift, step.now + shift, step.call, step.reply.later shift⟩

theorem Step.evicted_later (step : Step α) :
    (step.later shift).evicted = step.evicted.map (Entry.later shift) := by
  obtain ⟨before, now, call, reply⟩ := step
  cases call with
  | message m =>
    simp only [later, evicted, admission?, Engine.admission?_later]
    cases before.admission? now m <;> rfl
  | setTier requested => simp only [later, evicted, Engine.shrunk_later]
  | activity | cleanup | close => rfl

variable {c : Config α} {opened : Nat} {past : List (Step α)}

/-- What a gate did it would also have done later. -/
theorem Run.later (run : Run c opened past e) (shift : Nat) :
    Run c (opened + shift) (past.map (Step.later shift)) (e.later shift) := by
  induction run with
  | start started => exact .start (Engine.start_later started shift)
  | call _ reordered performed ih =>
    refine ih.call (reordered.later shift) ?_
    rw [Engine.perform_later, performed]
    rfl

/-- A gate does not know the time of day. The same calls, all of them later by the same time, have
the same answers, events and evictions, and leave a gate that differs in nothing but its readings of
the clock; and so it goes on, faults included. -/
theorem Run.epoch_unobservable [RoundedScalar α] [OrderedScalar α] (run : Run c opened past e)
    (shift : Nat) :
    Run c (opened + shift) (past.map (Step.later shift)) (e.later shift) ∧
      (∀ gate now call, e.Reordered gate → (e.later shift).Reordered (gate.later shift) ∧
        (gate.later shift).perform (now + shift) call =
          (gate.perform now call).map (Reply.later shift)) ∧
      ∀ (others : List (Step α)) (f : Engine α), Run c (opened + shift) others f →
        others.map Step.request = past.map (fun step => (step.now + shift, step.call)) →
        Scalar.ExpDecays α → (∀ step ∈ past, step.now + shift < UInt64.size) →
        ((∀ x : α, ∃ v, Scalar.value? x = some v) ∨ past.length < UInt64.size) →
        others.map Step.outcome = past.map (fun step => (step.reply.value,
            step.reply.events.map (Event.later shift), step.evicted.map (Entry.later shift))) ∧
          (e.later shift).Alike f := by
  have again := run.later shift
  refine ⟨again, ?_, ?_⟩
  · intro gate now call reordered
    exact ⟨reordered.later shift, gate.perform_later call⟩
  intro others f other asked decays clocks counts
  have requests : others.map Step.request =
      (past.map (Step.later shift)).map Step.request := by
    rw [asked, List.map_map]
    rfl
  have readings : ∀ step ∈ past.map (Step.later shift), step.now < UInt64.size := by
    intro step member
    obtain ⟨own, among, rfl⟩ := List.mem_map.1 member
    exact clocks own among
  obtain ⟨outcomes, alike⟩ := again.determined other requests decays readings
    (by rwa [List.length_map])
  refine ⟨?_, alike⟩
  rw [outcomes, List.map_map]
  refine List.map_congr_left fun step _ => ?_
  show (step.reply.value, step.reply.events.map _, (step.later shift).evicted) = _
  rw [step.evicted_later]

/-- Two messages for which there is room for one, the first of them sent twice, on the first day and
a day later. -/
theorem epoch_unobservable_crowded : ∃ (c : Config Rat) (past others : List (Step Rat))
    (e f : Engine Rat), @Run Rat decayingScalar c 0 past e ∧
      @Run Rat decayingScalar c 86400000 others f ∧
      others.map Step.request = past.map (fun step => (step.now + 86400000, step.call)) ∧
      past.map (fun step => step.reply.value) = [.verdict false, .verdict true, .verdict false] ∧
      (past.flatMap (@Step.evicted Rat decayingScalar)).map Entry.lastSeen = [1000] ∧
      (others.flatMap (@Step.evicted Rat decayingScalar)).map Entry.lastSeen = [86401000] ∧
      (e.later 86400000).Alike f := by
  let _ := decayingScalar
  let _ := roundedScalar_exact fun q => 1 / (1 - q)
  have _ := orderedScalar_exact fun q => 1 / (1 - q)
  let c : Config Rat := { Config.ofTier .enterprise with capacity := some 1 }
  have usable : c.problem? = none := by decide +kernel
  let a : Message := ⟨"a", "block", "p", .empty⟩
  let b : Message := ⟨"b", "block", "p", .empty⟩
  let calls : List (Nat × Call) := [(0, .message a), (1000, .message a), (2000, .message b)]
  have traced : ((Engine.assemble c (by decide) 0).engine.trace calls).toOption.any (fun past =>
        decide (past.map (fun step => step.reply.value) =
            [.verdict false, .verdict true, .verdict false] ∧
          (past.flatMap Step.evicted).map Entry.lastSeen = [1000])) = true := by
    decide +kernel
  have alsoTraced : ((Engine.assemble c (by decide) 86400000).engine.trace
      (calls.map fun request => (request.1 + 86400000, request.2))).toOption.any
        (fun _ => true) = true := by
    decide +kernel
  obtain ⟨past, e, run, requests, facts⟩ := Run.of_trace usable traced
  obtain ⟨others, f, other, alsoRequests, _⟩ := Run.of_trace usable alsoTraced
  obtain ⟨answers, evicted⟩ := of_decide_eq_true facts
  have asked : others.map Step.request =
      past.map fun step => (step.now + 86400000, step.call) := by
    have moved : past.map (fun step => (step.now + 86400000, step.call)) =
        (past.map Step.request).map fun request => (request.1 + 86400000, request.2) := by
      rw [List.map_map]
      rfl
    rw [alsoRequests, moved, requests, List.map_reverse]
  have clocks : ∀ step ∈ past, step.now + 86400000 < UInt64.size :=
    Step.forall_now (P := fun reading => reading + 86400000 < UInt64.size) requests (by decide)
  have moved : Run c (0 + 86400000) others f := by
    rw [Nat.zero_add]
    exact other
  obtain ⟨outcomes, alike⟩ := (run.epoch_unobservable 86400000).2.2 others f moved asked
    expDecays_decaying clocks (Or.inl fun x => ⟨x, rfl⟩)
  have shown : others.flatMap Step.evicted =
      (past.flatMap Step.evicted).map (Entry.later 86400000) := by
    have lists := congrArg (List.flatMap fun outcome => outcome.2.2) outcomes
    rw [List.flatMap_map, List.flatMap_map] at lists
    rw [List.map_flatMap]
    exact lists
  have readings : ((past.flatMap Step.evicted).map (Entry.later 86400000)).map Entry.lastSeen =
      ((past.flatMap Step.evicted).map Entry.lastSeen).map (· + 86400000) := by
    rw [List.map_map, List.map_map]
    rfl
  refine ⟨c, past, others, e, f, run, other, asked, answers, evicted, ?_, alike⟩
  rw [shown, readings, evicted]
  simp

end GossipGate
