import GossipGate.Proofs.ShardCount
import GossipGate.Proofs.Survivors

namespace GossipGate

variable {α : Type} [Scalar α] [RoundedScalar α] {e : Engine α} {now : Nat} {count : Nat}

open Scalar

namespace Engine

/-- No score by which a gate may evict is NaN. -/
theorem Ranged.scoresNumbers (ranged : e.Ranged count) (reading : now < UInt64.size) :
    e.ScoresNumbers now e.store := by
  intro _ item stored
  obtain ⟨items, holds, _⟩ := ranged.held
  have member : item ∈ items := holds.perm.mem_iff.1 stored
  have own := ranged.entries item.1 item.2 ((holds.lookup item.1 item.2).2 member)
  obtain ⟨v, value⟩ := ranged.worth reading own
  exact (RoundedScalar.beq_iff value value).2 rfl

theorem Ranged.comparable (ranged : e.Ranged count) (decays : ExpDecays α)
    (few : Counts α (count + 3)) (reading : now < UInt64.size) (call : Call) :
    e.Comparable now call := by
  cases call with
  | message m =>
    intro a arrived
    have readings : Counts α now := Or.inr (show now ≤ 2 ^ 67 by
      have size : UInt64.size = 2 ^ 64 := rfl
      omega)
    -- The bookkeeping of the message makes three changes before the store is asked.
    have moved := (arrive_goes arrived).1.keeps
      (P := fun many gate => Counts α many → gate.Ranged many)
      (fun many first last moves ranged enough =>
        (ranged (enough.mono (Nat.le_succ many))).moves decays enough readings moves)
      count (fun _ => ranged)
    rw [← arrive_store arrived]
    exact (moved few).scoresNumbers reading
  | setTier requested =>
    let changed : Engine α := { e with profile := .ofTier (.serving requested) }
    have same : changed.Ranged count := ranged.congr rfl rfl rfl
    exact same.scoresNumbers reading
  | activity | cleanup | close => trivial

end Engine

variable {c : Config α} {opened : Nat} {past others : List (Step α)}

/-- Where all counts and readings are words of 64 bits, every choice of a run is one between
numbers. -/
theorem Run.comparable (run : Run c opened past e) (decays : ExpDecays α)
    (clocks : ∀ step ∈ past, step.now < UInt64.size)
    (counts : (∀ x : α, ∃ v, value? x = some v) ∨ past.length < UInt64.size) :
    ∀ step ∈ past, step.before.Comparable step.now step.call := by
  have size : UInt64.size = 2 ^ 64 := rfl
  induction run with
  | start => exact fun step member => absurd member List.not_mem_nil
  | @call past e gate now call reply before reordered _ ih =>
    obtain ⟨reading, readings⟩ := List.forall_mem_cons.1 clocks
    have fewer : (∀ x : α, ∃ v, value? x = some v) ∨ past.length < UInt64.size :=
      counts.imp_right fun few => (Nat.lt_succ_self _).trans few
    have enough : Counts α (7 * past.length + 3) := counts.imp_right fun few => by
      rw [List.length_cons] at few
      show _ ≤ 2 ^ 67
      omega
    have words : ∀ step ∈ past, Counts α step.now := fun step member => Or.inr (by
      have word := readings step member
      show _ ≤ 2 ^ 67
      omega)
    have ranged := (before.ranged_changes decays words
      (enough.mono (Nat.le_add_right _ _))).reordered reordered
    exact List.forall_mem_cons.2 ⟨ranged.comparable decays enough reading call, ih readings fewer⟩

/-- What is asked of a gate, and when, decides what it shows, and leaves gates that are alike but
for the order of their tables. -/
theorem Run.determined [OrderedScalar α] {f : Engine α} (run : Run c opened past e)
    (other : Run c opened others f) (asked : others.map Step.request = past.map Step.request)
    (decays : ExpDecays α) (clocks : ∀ step ∈ past, step.now < UInt64.size)
    (counts : (∀ x : α, ∃ v, value? x = some v) ∨ past.length < UInt64.size) :
    others.map Step.outcome = past.map Step.outcome ∧ e.Alike f := by
  have same : Run { c with shards := c.shards } opened others f := other
  exact run.alike same asked (run.comparable decays clocks counts)

end GossipGate
