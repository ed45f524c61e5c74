import GossipGate.Proofs.Footprint

namespace GossipGate

namespace Traffic

variable {α : Type}

/-- The same record but for its TTL, the only part that an adjustment sets. -/
def Retimed (t after : Traffic α) : Prop := ∃ ttl adapted, after = { t with ttl, adapted }

theorem Retimed.refl (t : Traffic α) : t.Retimed t := ⟨t.ttl, t.adapted, rfl⟩

theorem Retimed.rel_refl : (t? : Option (Traffic α)) → Option.Rel Retimed t? t?
  | none => .none
  | some t => .some (.refl t)

end Traffic

variable {α : Type} [Scalar α] {e : Engine α} {now : Nat} {m : Message}

namespace Engine

/-- A record of the type of a message that counts the message: what is measured of it, with one
more duplicate where the store found one. A blocked message is measured as a duplicate. -/
def Measured (e : Engine α) (now : Nat) (m : Message) (t : Traffic α) : Prop :=
  ∃ measured, e.measure now m (e.blocks m) = .ok measured ∧
    (t = measured.1 ∨ e.blocks m = false ∧ t = measured.1.countDuplicate)

/-- An adjustment keeps the records of all types but for their TTLs. -/
theorem adjustIfDue_retimed {result : Engine α × List (Event α)}
    (done : e.adjustIfDue now = .ok result) {messageType : String} {t : Traffic α}
    (stored : e.traffic.get? messageType = some t) :
    ∃ after, t.Retimed after ∧ result.1.traffic.get? messageType = some after := by
  rcases adjustIfDue_cases done with ⟨_, rfl⟩ | ⟨_, adjusted⟩
  · exact ⟨t, .refl t, stored⟩
  rcases adjustTtl_adjusts adjusted with same | ⟨change, learned, adjusts⟩
  · rw [same]
    exact ⟨t, .refl t, stored⟩
  · obtain ⟨ttl, adapted, after⟩ := adjusts.exists_eq stored
    exact ⟨_, ⟨ttl, adapted, rfl⟩, after⟩

/-- A message with a hash is counted in the record of its type. -/
theorem Receives.measured {reply : Reply α Bool} (receives : e.Receives now m reply)
    (named : m.hash.isEmpty = false) : ∃ t after, e.Measured now m t ∧ t.Retimed after ∧
      reply.engine.traffic.get? m.messageType = some after := by
  have arrives : ∀ a, e.arrive now m = .ok a → ∃ measured,
      e.measure now m (e.blocks m) = .ok measured ∧
        a.engine.traffic.get? m.messageType = some measured.1 := by
    intro a arrived
    obtain ⟨peers, measured, done, _, engine⟩ := arrive_engine arrived
    refine ⟨measured, done, ?_⟩
    rw [engine]
    show (e.traffic.insert m.messageType measured.1).get? m.messageType = _
    rw [Table.get?_insert, if_pos rfl]
  cases receives with
  | nameless nothing =>
    rw [named] at nothing
    cases nothing
  | @blocked arrival _ _ arrived =>
    obtain ⟨measured, done, stored⟩ := arrives arrival arrived
    exact ⟨measured.1, measured.1, ⟨measured, done, Or.inl rfl⟩, .refl _, stored⟩
  | @suppressed arrival _ unblocked arrived _ =>
    obtain ⟨measured, done, stored⟩ := arrives arrival arrived
    let admitted := arrival.engine.withStore (lookUp now arrival m).store
    obtain ⟨peers, engine⟩ := suppress_engine (e := admitted) (m := m) arrival
    refine ⟨measured.1.countDuplicate, _, ⟨measured, done, Or.inr ⟨unblocked, rfl⟩⟩, .refl _, ?_⟩
    show (admitted.suppress arrival m).engine.traffic.get? m.messageType = _
    rw [engine]
    show (arrival.engine.traffic.modify m.messageType _).get? m.messageType = _
    rw [Table.get?_modify, if_pos rfl, stored, Option.map_some]
  | @passed arrival reply _ _ arrived _ passed =>
    obtain ⟨measured, done, stored⟩ := arrives arrival arrived
    obtain ⟨peers, result, due, engine, _⟩ := pass_adjusts passed
    obtain ⟨after, retimed, kept⟩ := adjustIfDue_retimed due stored
    refine ⟨measured.1, after, ⟨measured, done, Or.inl rfl⟩, retimed, ?_⟩
    show reply.engine.traffic.get? m.messageType = _
    rw [engine]
    exact kept

/-- Any other type keeps its record but for the TTL. -/
theorem Receives.unmeasured {reply : Reply α Bool} (receives : e.Receives now m reply)
    {messageType : String} (other : m.hash.isEmpty = false → m.messageType ≠ messageType) :
    Option.Rel Traffic.Retimed (e.traffic.get? messageType)
      (reply.engine.traffic.get? messageType) := by
  cases named : m.hash.isEmpty with
  | true =>
    cases receives with
    | nameless => exact Traffic.Retimed.rel_refl _
    | blocked hashed | suppressed hashed | passed hashed =>
      rw [named] at hashed
      cases hashed
  | false =>
    rcases receives.concludes.types_other (other named).symm with
      same | ⟨_, t, ttl, adapted, before, after⟩
    · rw [same]
      exact Traffic.Retimed.rel_refl _
    · rw [before, after]
      exact .some ⟨ttl, adapted, rfl⟩

/-- All that a call does to the record of a type: it counts a message of the type, or it leaves the
record alone but for the TTL. -/
theorem perform_traffic {call : Call} {reply : Reply α Answer}
    (performed : e.perform now call = .ok reply) (messageType : String) :
    (∃ m t after, call = .message m ∧ m.hash.isEmpty = false ∧ m.messageType = messageType ∧
        e.Measured now m t ∧ t.Retimed after ∧
        reply.engine.traffic.get? messageType = some after) ∨
      (∀ m, call = .message m → m.hash.isEmpty = false → m.messageType ≠ messageType) ∧
        Option.Rel Traffic.Retimed (e.traffic.get? messageType)
          (reply.engine.traffic.get? messageType) := by
  by_cases brought : ∃ m, call = .message m
  · obtain ⟨m, rfl⟩ := brought
    obtain ⟨answer, answered, rfl⟩ := perform_message performed
    have receives := receive_receives answered
    by_cases own : m.hash.isEmpty = false ∧ m.messageType = messageType
    · obtain ⟨named, rfl⟩ := own
      obtain ⟨t, after, counted, retimed, stored⟩ := receives.measured named
      exact Or.inl ⟨m, t, after, rfl, named, rfl, counted, retimed, stored⟩
    · refine Or.inr ⟨?_, receives.unmeasured fun named same => own ⟨named, same⟩⟩
      rintro _ ⟨⟩ named same
      exact own ⟨named, same⟩
  · have other : ∀ m, call ≠ .message m := fun m same => brought ⟨m, same⟩
    refine Or.inr ⟨fun m same => absurd same (other m), ?_⟩
    rw [(perform_upkeep other performed).1]
    exact Traffic.Retimed.rel_refl _

end Engine

end GossipGate
