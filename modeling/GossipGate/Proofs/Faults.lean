import GossipGate.Proofs.GlobalTtl
import GossipGate.Proofs.SecondsClamp

namespace GossipGate

section Steps

variable {ε β γ : Type}

/-- Steps that each have a value end with one. -/
theorem bind_ok {first : Except ε β} {next : β → Except ε γ} (begins : ∃ value, first = .ok value)
    (goes : ∀ value, first = .ok value → ∃ last, next value = .ok last) :
    ∃ last, first >>= next = .ok last := by
  obtain ⟨value, own⟩ := begins
  obtain ⟨last, rest⟩ := goes value own
  rw [own]
  exact ⟨last, rest⟩

theorem map_ok {first : Except ε β} (begins : ∃ value, first = .ok value) (f : β → γ) :
    ∃ last, first.map f = .ok last := by
  obtain ⟨value, own⟩ := begins
  rw [own]
  exact ⟨f value, rfl⟩

theorem mapM_ok {f : β → Except ε γ} {members : List β}
    (each : ∀ x ∈ members, ∃ result, f x = .ok result) :
    ∃ results, members.mapM f = .ok results := by
  induction members with
  | nil => exact ⟨[], rfl⟩
  | cons first rest ih =>
    obtain ⟨own, others⟩ := List.forall_mem_cons.1 each
    rw [List.mapM_cons]
    exact bind_ok own fun _ _ => bind_ok (ih others) fun _ _ => ⟨_, rfl⟩

end Steps

namespace Duration

variable {a b : Duration}

theorem add_ok (short : a.nanos + b.nanos < limit) : ∃ d, a.add b = .ok d := by
  have sum : ofNanos? (a.nanos + b.nanos) = some ⟨_, short⟩ := dif_pos short
  unfold add
  rw [sum]
  exact ⟨_, rfl⟩

theorem sub_ok (le : b ≤ a) : ∃ d, a.sub b = .ok d := by
  unfold sub
  rw [if_pos le]
  exact ⟨_, rfl⟩

theorem add_eq_ok {d : Duration} (done : a.add b = .ok d) : d.nanos = a.nanos + b.nanos := by
  unfold add ofNanos? at done
  split at done
  · rename_i sum spans
    split at spans
    · cases spans
      cases done
      rfl
    · cases spans
  · cases done

theorem sub_eq_ok {d : Duration} (done : a.sub b = .ok d) : d.nanos + b.nanos = a.nanos := by
  unfold sub at done
  split at done
  · rename_i le
    cases done
    exact Nat.sub_add_cancel le
  · cases done

/-- No word of milliseconds lasts longer. -/
abbrev longestWord : Nat := 2 ^ 64 * 1000000

theorem nanos_ofMillis_le {n : Nat} (word : n < UInt64.size) :
    (ofMillis n).nanos ≤ longestWord := by
  have size : UInt64.size = 2 ^ 64 := rfl
  unfold ofMillis ofNanos longestWord
  dsimp only
  omega

end Duration

variable {α : Type} [Scalar α]

open Scalar

/-! ### TTLs that are calculated -/

/-- The longest time to live that is sure to be a duration after it was a number. -/
abbrev longestTtl : Nat := 2 ^ 63 * 1000000000

namespace TtlChange

variable {ttl : Duration}

/-- No proposal leaves the durations: only what is above two minutes is shortened. -/
theorem proposal_ok (short : ttl.nanos ≤ longestTtl) (rate : α) :
    ∃ change, proposal ttl rate = .ok change := by
  have longer : ∀ seconds ≤ 30, ∃ d, ttl.add (.ofSeconds seconds) = .ok d := by
    intro seconds few
    have nanos : (Duration.ofSeconds seconds).nanos = seconds * 1000000000 :=
      Duration.nanos_ofNanos (by unfold Duration.limit; omega)
    unfold longestTtl at short
    exact Duration.add_ok (by unfold Duration.limit; omega)
  unfold proposal
  split
  · exact map_ok (longer 30 le_rfl) _
  split
  · exact map_ok (longer 15 (by norm_num)) _
  split
  · split
    · rename_i above
      have least : Duration.ofSeconds 15 ≤ .ofMinutes 2 := by decide
      exact map_ok (Duration.sub_ok (least.trans (Nat.le_of_lt above))) _
    · exact ⟨_, rfl⟩
  · exact map_ok (longer 5 (by norm_num)) _

theorem step_ok (w : TtlWindow) (short : ttl.nanos ≤ longestTtl) (rate : α) :
    ∃ change, step ttl rate w.toTtlBounds = .ok change :=
  bind_ok (proposal_ok short rate) fun _ _ => bind_ok ⟨_, w.clamp_eq _⟩ fun _ _ => ⟨_, rfl⟩

end TtlChange

section Measured

variable [RoundedScalar α] {w : TtlWindow} (short : w.max.nanos ≤ longestTtl)

include short

/-- Whatever number of seconds comes out, also none at all, it is cut to the bounds. -/
theorem TtlWindow.clampSeconds_ok (seconds : α) : ∃ cut, w.clampSeconds seconds = .ok cut := by
  obtain ⟨m, most, positive, bounded⟩ := Duration.toSeconds_upTo (α := α) short
  refine w.clampSeconds_ok_of_short most positive fun p above value => ?_
  have under := (RoundedScalar.lt_iff value?_zero value).1 above
  have brief : Duration.nearestNanos (min p m) ≤ longestTtl := by
    refine Duration.nearestNanos_le (le_min under.le positive) ?_
    push_cast
    exact mul_le_mul_of_nonneg_right ((min_le_right p m).trans bounded) (by norm_num)
  exact brief.trans_lt (by decide)

theorem TtlChange.scale_ok (ttl : Duration) (rate learningRate : α) :
    ∃ change, scale ttl rate learningRate w.toTtlBounds = .ok change :=
  bind_ok (w.clampSeconds_ok short _) fun _ _ => ⟨_, rfl⟩

theorem Traffic.learnedTtl_ok (t : Traffic α) (global : Duration) (messageType : String)
    (learningRate : α) :
    ∃ learned, t.learnedTtl global messageType learningRate w.toTtlBounds = .ok learned := by
  unfold learnedTtl
  split
  · exact ⟨none, rfl⟩
  · exact map_ok (w.clampSeconds_ok short _) _

end Measured

namespace Engine

variable {e : Engine α} {now : Nat} {m : Message}

/-- No TTL of the gate is too long to be calculated with. -/
structure Brief (e : Engine α) : Prop where
  longest : e.tuning.window.max.nanos ≤ longestTtl
  word : e.ttlMillis < UInt64.size

variable [RoundedScalar α]

theorem learn_ok (longest : e.tuning.window.max.nanos ≤ longestTtl) (global : Duration) :
    ∃ learned, e.learn global = .ok learned := by
  unfold learn
  split
  · refine bind_ok (mapM_ok fun pair _ => ?_) fun _ _ => ⟨_, rfl⟩
    exact bind_ok (Traffic.learnedTtl_ok longest pair.2 global pair.1 _) fun _ _ => ⟨_, rfl⟩
  · exact ⟨[], rfl⟩

theorem Brief.control (brief : e.Brief) : ∃ change, e.control = .ok change := by
  unfold Engine.control
  split
  · exact TtlChange.scale_ok brief.longest _ _ _
  · have words : Duration.longestWord ≤ longestTtl := by norm_num
    exact TtlChange.step_ok e.tuning.window
      ((Duration.nanos_ofMillis_le brief.word).trans words) _

theorem Brief.adjustTtl (brief : e.Brief) : ∃ result, e.adjustTtl = .ok result := by
  rw [adjustTtl_eq]
  split
  · exact ⟨_, rfl⟩
  · exact bind_ok brief.control fun change _ => map_ok (learn_ok brief.longest change.ttl) _

theorem Brief.adjustIfDue (brief : e.Brief) (now : Nat) :
    ∃ result, e.adjustIfDue now = .ok result := by
  unfold Engine.adjustIfDue
  split
  · exact ⟨_, rfl⟩
  · exact Brief.adjustTtl (e := { e with lastAdjust := now }) ⟨brief.longest, brief.word⟩

theorem Brief.pass (brief : e.Brief) (now : Nat) (a : Arrival α) (m : Message)
    (outcome : Outcome) : ∃ reply, e.pass now a m outcome = .ok reply := by
  have judged : ∃ peers, (if outcome = .inserted then e.judgeCaller a m false else (e, [])).1 =
      { e with peers } := by
    split
    · obtain ⟨peers, _, same, _⟩ := judgeCaller_eq (e := e) (m := m) a false
      exact ⟨peers, congrArg Prod.fst same⟩
    · exact ⟨_, rfl⟩
  obtain ⟨peers, same⟩ := judged
  have adjusted : ∃ result, Engine.adjustIfDue
      (if outcome = .inserted then e.judgeCaller a m false else (e, [])).1 now = .ok result := by
    rw [same]
    exact Brief.adjustIfDue (e := { e with peers }) ⟨brief.longest, brief.word⟩ now
  exact bind_ok adjusted fun _ _ => ⟨_, rfl⟩

/-- No message causes a fault. -/
theorem Brief.receive (brief : e.Brief) (measurable : e.Measurable) (reading : now < UInt64.size)
    (m : Message) : ∃ reply, e.receive now m = .ok reply := by
  cases named : m.hash.isEmpty with
  | true =>
    unfold Engine.receive
    rw [named, if_pos rfl]
    exact ⟨_, rfl⟩
  | false =>
    obtain ⟨a, arrived⟩ := measurable.arrive reading m
    cases blocked : e.blocks m with
    | true => exact ⟨_, receive_blocked named blocked arrived⟩
    | false =>
      rw [receive_resolves named blocked arrived]
      by_cases duplicate : (lookUp now a m).outcome = .duplicate
      · exact ⟨_, resolve_duplicate duplicate⟩
      · obtain ⟨peers, measured, _, _, same⟩ := arrive_engine arrived
        have known : (a.engine.withStore (lookUp now a m).store).Brief := by
          rw [same]
          exact ⟨brief.longest, brief.word⟩
        rw [resolve_other duplicate]
        exact map_ok (known.pass now a m _) _

theorem Brief.perform (brief : e.Brief) (measurable : e.Measurable)
    (reading : now < UInt64.size) (call : Call) : ∃ reply, e.perform now call = .ok reply := by
  cases call with
  | message m => exact map_ok (brief.receive measurable reading m) _
  | activity | cleanup | setTier | close => exact ⟨_, rfl⟩

end Engine

theorem Run.brief {c : Config α} {opened : Nat} {past : List (Step α)} {e : Engine α}
    (run : Run c opened past e) (short : c.maxTtl.nanos ≤ longestTtl) : e.Brief := by
  constructor
  · rw [show e.tuning.window.max = c.maxTtl from congrArg TtlBounds.max run.tuning.1]
    exact short
  · rw [run.ttlMillis_eq]
    exact Duration.millisWord_lt _

end GossipGate
