import Mathlib.Algebra.Order.Floor.Semiring
import Mathlib.Data.Rat.Floor
import Mathlib.Tactic.Linarith
import Mathlib.Tactic.Positivity
import Mathlib.Tactic.Ring
import GossipGate.Proofs.PeerNotes
import GossipGate.Scalar.Exact

namespace GossipGate

/-- In exact arithmetic the nearest number of the unit interval is a maximum of a minimum. -/
theorem Scalar.clamp_exact (exp : Rat → Rat) (x : Rat) :
    @clamp Rat (exactScalar exp) 0.0 1.0 x = max 0 (min 1 x) := by
  show (if x < 0.0 then 0.0 else if 1.0 < x then 1.0 else x) = _
  rw [show (0.0 : Rat) = 0 by norm_num, show (1.0 : Rat) = 1 by norm_num]
  split
  · rename_i below
    exact (max_eq_left ((min_le_right 1 x).trans below.le)).symm
  · rename_i notBelow
    have low := not_lt.1 notBelow
    split
    · rename_i above
      rw [min_eq_left above.le, max_eq_right zero_le_one]
    · rename_i notAbove
      rw [min_eq_right (not_lt.1 notAbove), max_eq_right low]

namespace Peer

variable {exp : Rat → Rat} {p : Peer Rat} {score share rate : Rat}

/-! ### Steps of the score in exact arithmetic -/

/-- A new message raises the score by a fiftieth of the learning rate, up to the full score. -/
theorem nextScore_novel (low : 0 ≤ score) (learns : 0 ≤ rate) :
    @nextScore Rat (exactScalar exp) score share rate false = min 1 (score + 0.02 * rate) := by
  have moved : score * (1.0 - rate) + (score + 0.02) * rate = score + 0.02 * rate := by
    norm_num
    ring
  have gained : 0 ≤ score + 0.02 * rate := by positivity
  calc @nextScore Rat (exactScalar exp) score share rate false
      = @Scalar.clamp Rat (exactScalar exp) 0.0 1.0
          (score * (1.0 - rate) + (score + 0.02) * rate) := rfl
    _ = max 0 (min 1 (score + 0.02 * rate)) := by rw [moved, Scalar.clamp_exact]
    _ = min 1 (score + 0.02 * rate) := max_eq_right (le_min zero_le_one gained)

/-- A duplicate lowers it by a tenth of the learning rate, and by up to twice that where most
messages of the sender are duplicates. -/
theorem nextScore_duplicate (high : score ≤ 1) (learns : 0 ≤ rate) (counted : 0 ≤ share) :
    @nextScore Rat (exactScalar exp) score share rate true =
      max 0 (score - 0.1 * rate * (1 + share)) := by
  have moved : score * (1.0 - rate) + (score - 0.1 * (1.0 + share)) * rate =
      score - 0.1 * rate * (1 + share) := by
    norm_num
    ring
  have lost : 0 ≤ 0.1 * rate * (1 + share) := by positivity
  calc @nextScore Rat (exactScalar exp) score share rate true
      = @Scalar.clamp Rat (exactScalar exp) 0.0 1.0
          (score * (1.0 - rate) + (score - 0.1 * (1.0 + share)) * rate) := rfl
    _ = max 0 (min 1 (score - 0.1 * rate * (1 + share))) := by rw [moved, Scalar.clamp_exact]
    _ = max 0 (score - 0.1 * rate * (1 + share)) := by rw [min_eq_right (by linarith)]

theorem share_exact (part whole : Nat) :
    @Scalar.share Rat (exactScalar exp) part whole = part / whole := by
  show (if whole = 0 then (0.0 : Rat) else part / whole) = _
  split
  · rename_i empty
    rw [empty]
    norm_num
  · rfl

/-- What a call does to the score of a peer, by how it ends for the peer: as a duplicate, as a new
entry, or neither. -/
def Moves (exp : Rat → Rat) (rate : Rat) (before last : Peer Rat) : Option Bool → Prop
  | some false => last.score = min 1 (before.score + 0.02 * rate) ∧
      last.trust = @Trust.ofScore Rat (exactScalar exp) last.score
  | some true => last.score = max 0 (before.score - 0.1 * rate * (1 + last.duplicateRate)) ∧
      last.duplicateRate = (before.duplicates + 1 : Nat) / (before.messages + 1 : Nat) ∧
      last.trust = @Trust.ofScore Rat (exactScalar exp) last.score
  | none => last.score = before.score

/-- But for the blacklist a message that is scored leaves what its outcome makes of the counts. -/
theorem after_judged (p : Peer Rat) (rate : Rat) (now : Nat) (duplicate : Bool) :
    ∃ blacklisted blacklistReason,
      @after Rat (exactScalar exp) p rate [.activity now, .outcome duplicate] =
        { @scored Rat (exactScalar exp) (@recordActivity Rat (exactScalar exp) p now) duplicate rate
          with blacklisted, blacklistReason } :=
  @settle_fst Rat (exactScalar exp) (@recordActivity Rat (exactScalar exp) p now) duplicate rate

theorem moves_judged (low : 0 ≤ p.score) (high : p.score ≤ 1) (learns : 0 ≤ rate) (now : Nat)
    (duplicate : Bool) : Moves exp rate p
      (@after Rat (exactScalar exp) p rate [.activity now, .outcome duplicate])
      (some duplicate) := by
  let _ := exactScalar exp
  obtain ⟨_, _, record⟩ := @after_judged exp p rate now duplicate
  rw [record]
  cases duplicate with
  | false => exact ⟨nextScore_novel low learns, rfl⟩
  | true =>
    have share : ((p.recordActivity now).scored true rate).duplicateRate =
        (p.duplicates + 1 : Nat) / (p.messages + 1 : Nat) :=
      share_exact (p.duplicates + 1) (p.messages + 1)
    have counted : 0 ≤ ((p.recordActivity now).scored true rate).duplicateRate := by
      rw [share]
      positivity
    exact ⟨nextScore_duplicate high learns counted, share, rfl⟩

/-- Only a duplicate lowers a score. -/
theorem Moves.not_lowered {last : Peer Rat} {judged : Option Bool}
    (moves : Moves exp rate p last judged) (high : p.score ≤ 1) (learns : 0 ≤ rate)
    (other : judged ≠ some true) : p.score ≤ last.score := by
  match judged with
  | none => exact ge_of_eq moves
  | some false =>
    rw [moves.1]
    exact le_min high (le_add_of_nonneg_right (by positivity))
  | some true => exact absurd rfl other

/-- Only a new message raises one. -/
theorem Moves.not_raised {last : Peer Rat} {judged : Option Bool}
    (moves : Moves exp rate p last judged) (low : 0 ≤ p.score) (learns : 0 ≤ rate)
    (other : judged ≠ some false) : last.score ≤ p.score := by
  match judged with
  | none => exact le_of_eq moves
  | some false => exact absurd rfl other
  | some true =>
    have counted : 0 ≤ last.duplicateRate := by
      rw [moves.2.1]
      positivity
    rw [moves.1]
    exact max_le low (sub_le_self _ (by positivity))

/-! ### Floods of duplicates -/

/-- What the record of a peer is told of one duplicate after another, at some clock readings. -/
def flood (nows : List Nat) : List Note := nows.flatMap fun now => [.activity now, .outcome true]

/-- A record after nothing but some duplicates. -/
structure Flooded (p : Peer Rat) (rate : Rat) (count : Nat) : Prop where
  messages : p.messages = count
  duplicates : p.duplicates = count
  score : p.score = max 0 (1 - 0.2 * rate * count)
  blacklisted : p.blacklisted = true ↔ 50 < count ∧ 0.9 < 0.2 * rate * count

theorem flooded_fresh (id : String) (opened : Nat) (trust : Trust) (rate : Rat) :
    Flooded { @Peer.fresh Rat (exactScalar exp) id opened with trust } rate 0 := by
  refine ⟨rfl, rfl, ?_, iff_of_false Bool.false_ne_true (by simp)⟩
  show (1.0 : Rat) = _
  norm_num

theorem penalty_again (learns : 0 ≤ rate) (count : Rat) :
    max 0 (max 0 (1 - 0.2 * rate * count) - 0.1 * rate * (1 + 1)) =
      max 0 (1 - 0.2 * rate * (count + 1)) := by
  have again : 1 - 0.2 * rate * count - 0.1 * rate * (1 + 1) = 1 - 0.2 * rate * (count + 1) := by
    norm_num
    ring
  rcases le_total 0 (1 - 0.2 * rate * count) with left | spent
  · rw [max_eq_right left, again]
  · rw [max_eq_left spent, max_eq_left (by linarith), max_eq_left (by linarith)]

/-- One more duplicate. All messages are duplicates, so it costs twice the tenth. -/
theorem Flooded.again {count : Nat} (flooded : p.Flooded rate count) (learns : 0 ≤ rate)
    (now : Nat) :
    (@after Rat (exactScalar exp) p rate [.activity now, .outcome true]).Flooded rate
      (count + 1) := by
  let _ := exactScalar exp
  let last := p.after rate [.activity now, .outcome true]
  have counts : last.messages = count + 1 ∧ last.duplicates = count + 1 := by
    obtain ⟨_, _, record⟩ := @after_judged exp p rate now true
    have same : last = _ := record
    rw [same]
    exact ⟨congrArg Nat.succ flooded.messages, congrArg Nat.succ flooded.duplicates⟩
  have inside : 0 ≤ p.score ∧ p.score ≤ 1 := by
    rw [flooded.score]
    exact ⟨le_max_left _ _, max_le zero_le_one (sub_le_self 1 (by positivity))⟩
  obtain ⟨score, share, _⟩ : Moves exp rate p last (some true) :=
    moves_judged inside.1 inside.2 learns now true
  have whole : last.duplicateRate = 1 := by
    rw [share, flooded.messages, flooded.duplicates]
    exact div_self (Nat.cast_ne_zero.2 (Nat.succ_ne_zero count))
  rw [whole, flooded.score, penalty_again learns, ← Nat.cast_add_one] at score
  have due : ((p.recordActivity now).turn rate (.outcome true)).Due ↔
      50 < count + 1 ∧ 0.9 < 0.2 * rate * (count + 1 : Nat) := by
    show (∃ duplicate, Note.outcome true = .outcome duplicate) ∧
      last.score < 0.1 ∧ 0.8 < last.duplicateRate ∧ 50 < last.messages ↔ _
    rw [score, whole, counts.1, max_lt_iff]
    constructor
    · rintro ⟨_, ⟨_, low⟩, _, many⟩
      exact ⟨many, by linarith⟩
    · rintro ⟨many, spent⟩
      exact ⟨⟨true, rfl⟩, ⟨by norm_num, by linarith⟩, by norm_num, many⟩
  refine ⟨counts.1, counts.2, score, ?_⟩
  show ((p.recordActivity now).turn rate (.outcome true)).record.blacklisted = true ↔ _
  rw [turn_blacklisted, due]
  show p.blacklisted = true ∨ _ ↔ _
  rw [flooded.blacklisted]
  refine or_iff_right_of_imp fun ⟨many, spent⟩ => ⟨Nat.lt_succ_of_lt many, ?_⟩
  rw [Nat.cast_add_one, mul_add_one]
  linarith

theorem Flooded.after {count : Nat} (flooded : p.Flooded rate count) (learns : 0 ≤ rate)
    (nows : List Nat) :
    (@after Rat (exactScalar exp) p rate (flood nows)).Flooded rate (count + nows.length) := by
  induction nows generalizing p count with
  | nil => exact flooded
  | cons now later ih =>
    have next := ih (@Flooded.again exp _ _ _ flooded learns now)
    rw [List.length_cons, Nat.add_comm later.length, ← Nat.add_assoc]
    exact next

/-- A peer that sends nothing but duplicates loses a fifth of the learning rate for each of them. It
is on the blacklist from the first message on that is beyond fifty and leaves it with less than a
tenth of the score. -/
theorem flood_contained (exp : Rat → Rat) {rate : Rat} (learns : 0 < rate) (id : String)
    (opened : Nat) (trust : Trust) (nows : List Nat) :
    let flooded := @Peer.after Rat (exactScalar exp)
      { @Peer.fresh Rat (exactScalar exp) id opened with trust } rate (flood nows)
    flooded.score = max 0 (1 - 0.2 * rate * nows.length) ∧
      (flooded.blacklisted = true ↔ 50 < nows.length ∧ 0.9 < 0.2 * rate * nows.length) ∧
      (flooded.blacklisted = true ↔ max 51 (⌊4.5 / rate⌋₊ + 1) ≤ nows.length) := by
  have flooded : Flooded (@Peer.after Rat (exactScalar exp)
      { @Peer.fresh Rat (exactScalar exp) id opened with trust } rate (flood nows)) rate
      (0 + nows.length) := (flooded_fresh id opened trust rate).after learns.le nows
  rw [Nat.zero_add] at flooded
  refine ⟨flooded.score, flooded.blacklisted, flooded.blacklisted.trans ?_⟩
  rw [max_le_iff, Nat.succ_le_iff, Nat.succ_le_iff, Nat.floor_lt (by positivity),
    div_lt_iff₀ learns]
  refine and_congr_right fun _ => ?_
  constructor
  · intro spent
    linarith
  · intro spent
    linarith

/-- A slow learner takes 91 messages. -/
theorem flood_contained_slow :
    let flooded (count : Nat) := @Peer.after Rat (exactScalar fun _ => 1)
      (@Peer.fresh Rat (exactScalar fun _ => 1) "p" 0) 0.05 (flood (List.replicate count 0))
    (0 : Rat) < 0.05 ∧ (flooded 90).blacklisted = false ∧ (flooded 91).blacklisted = true ∧
      (flooded 91).score = 0.09 := by
  have slow : (0 : Rat) < 0.05 := by norm_num
  have before := (flood_contained (fun _ => 1) slow "p" 0 .medium (List.replicate 90 0)).2.1
  have after := flood_contained (fun _ => 1) slow "p" 0 .medium (List.replicate 91 0)
  rw [List.length_replicate] at before after
  refine ⟨slow, ?_, after.2.1.2 (by norm_num), after.1.trans (by norm_num)⟩
  rw [← Bool.not_eq_true]
  intro listed
  have spent := (before.1 listed).2
  norm_num at spent

end Peer

end GossipGate
