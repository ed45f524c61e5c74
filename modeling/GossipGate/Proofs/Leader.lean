import GossipGate.Store
import Mathlib.Order.Lattice

namespace GossipGate

variable {β : Type} {before : β → β → Bool}

theorem leader_mem (best : β) (rest : List β) : leader before best rest ∈ best :: rest := by
  induction rest generalizing best with
  | nil => exact List.mem_singleton_self best
  | cons candidate rest ih =>
    unfold leader
    split
    · exact List.mem_cons_of_mem _ (ih candidate)
    · rcases List.mem_cons.1 (ih best) with same | later
      · rw [same]
        exact List.mem_cons_self
      · exact List.mem_cons_of_mem _ (List.mem_cons_of_mem _ later)

/-- Where candidates are compared by their places, the leader has the least place. -/
theorem leader_least {Place : Type} [LinearOrder Place] (place : β → Place) {best : β}
    {rest : List β}
    (compares : ∀ a ∈ best :: rest, ∀ b ∈ best :: rest, before a b = true ↔ place a < place b) :
    ∀ candidate ∈ best :: rest, place (leader before best rest) ≤ place candidate := by
  induction rest generalizing best with
  | nil =>
    intro candidate member
    rw [List.mem_singleton.1 member]
    exact le_refl _
  | cons next rest ih =>
    have nextMember : next ∈ best :: next :: rest := by simp
    have decided := compares next nextMember best List.mem_cons_self
    unfold leader
    by_cases wins : before next best = true
    · rw [if_pos wins]
      have lower := ih fun a left b right => compares a (List.mem_cons_of_mem _ left) b
        (List.mem_cons_of_mem _ right)
      intro candidate member
      rcases List.mem_cons.1 member with same | later
      · rw [same]
        exact (lower next List.mem_cons_self).trans (decided.1 wins).le
      · exact lower candidate later
    · rw [if_neg wins]
      have kept : ∀ a ∈ best :: rest, a ∈ best :: next :: rest := by
        intro a member
        rcases List.mem_cons.1 member with same | later
        · exact same ▸ List.mem_cons_self
        · exact List.mem_cons_of_mem _ (List.mem_cons_of_mem _ later)
      have lower := ih fun a left b right => compares a (kept a left) b (kept b right)
      intro candidate member
      rcases List.mem_cons.1 member with same | later
      · exact lower candidate (same ▸ List.mem_cons_self)
      rcases List.mem_cons.1 later with same | last
      · rw [same]
        exact (lower best List.mem_cons_self).trans (not_lt.1 fun less => wins (decided.2 less))
      · exact lower candidate (List.mem_cons_of_mem _ last)

theorem leading?_eq_none_iff {candidates : List β} :
    leading? before candidates = none ↔ candidates = [] := by
  cases candidates <;> simp [leading?]

theorem leading?_mem {candidates : List β} {best : β}
    (found : leading? before candidates = some best) : best ∈ candidates := by
  cases candidates with
  | nil => cases found
  | cons candidate rest =>
    cases Option.some.inj found
    exact leader_mem candidate rest

theorem leading?_least {Place : Type} [LinearOrder Place] (place : β → Place)
    {candidates : List β} {best : β}
    (compares : ∀ a ∈ candidates, ∀ b ∈ candidates, before a b = true ↔ place a < place b)
    (found : leading? before candidates = some best) :
    ∀ candidate ∈ candidates, place best ≤ place candidate := by
  cases candidates with
  | nil => cases found
  | cons candidate rest =>
    cases Option.some.inj found
    exact leader_least place compares

end GossipGate
