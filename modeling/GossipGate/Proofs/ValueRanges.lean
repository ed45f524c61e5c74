import GossipGate.Proofs.Survivors

namespace GossipGate

variable {α : Type} [Scalar α]

open Scalar

/-- Confidence lies in [0.1, 1] and is a number, the priority lies in [1, 15], and the entry was
seen. -/
structure Entry.Sound (entry : Entry α) : Prop where
  seen : 1 ≤ entry.seenCount
  confidence : Inside 0.1 1.0 entry.confidence
  priority : 1 ≤ entry.priority ∧ entry.priority ≤ 15

/-- What a gate keeps about entries and peers lies where it should. -/
structure Engine.Sound (e : Engine α) : Prop where
  entries : ∀ entry ∈ e.store.entries, entry.Sound
  scores : ∀ p ∈ e.peers.values, Inside 0.0 1.0 p.score

variable {e : Engine α} {entry : Entry α} {p : Peer α} {count : Nat}

theorem Entry.Ranged.sound (ranged : entry.Ranged count) : entry.Sound :=
  ⟨ranged.seen, ranged.confidence, ranged.priority⟩

theorem Entry.Sound.inRange (sound : entry.Sound) : entry.inRange = true := by
  obtain ⟨_, ⟨_, above, below⟩, least, most⟩ := sound
  simp only [Entry.inRange, above, below, least, most, decide_true, Bool.and_self]

theorem Peer.inRange_of_inside (inside : Inside 0.0 1.0 p.score) : p.inRange = true := by
  simp only [Peer.inRange, inside.above, inside.below, decide_true, Bool.and_self]

theorem Engine.Ranged.sound (ranged : e.Ranged count) : e.Sound := by
  obtain ⟨items, holds, _⟩ := ranged.held
  constructor
  · intro entry member
    obtain ⟨⟨key, _⟩, stored, rfl⟩ := List.mem_map.1 member
    have found := (holds.lookup key _).2 (holds.perm.mem_iff.1 stored)
    exact (ranged.entries key _ found).sound
  · intro p member
    obtain ⟨⟨peer, _⟩, stored, rfl⟩ := List.mem_map.1 member
    exact (ranged.peers peer _ (Table.mem_entries_iff.1 stored)).score

/-- The audit of a gate finds nothing out of range. -/
theorem Engine.Sound.violation? (sound : e.Sound) :
    e.violation? ≠ some .entryOutOfRange ∧ e.violation? ≠ some .reputationOutOfRange := by
  have entries : e.store.entries.all Entry.inRange = true :=
    List.all_eq_true.2 fun entry member => (sound.entries entry member).inRange
  have scores : e.peers.values.all Peer.inRange = true :=
    List.all_eq_true.2 fun p member => Peer.inRange_of_inside (sound.scores p member)
  unfold Engine.violation?
  simp only [entries, scores, Bool.not_true, Bool.false_eq_true, if_false]
  constructor
  all_goals repeat' split
  all_goals simp

variable [RoundedScalar α] {c : Config α} {opened : Nat} {past : List (Step α)}

/-- Along every run confidence stays in [0.1, 1], priority in [1, 15] and the score of a peer in
[0, 1], and no audit finds otherwise. For numbers that are not exact the counts stay within their 64
bits. -/
theorem Run.value_ranges (run : Run c opened past e) {gate : Engine α}
    (reordered : e.Reordered gate) (decays : ExpDecays α)
    (clocks : ∀ step ∈ past, step.now < UInt64.size)
    (counts : (∀ x : α, ∃ v, value? x = some v) ∨ past.length < UInt64.size) :
    gate.Sound ∧ gate.violation? ≠ some .entryOutOfRange ∧
      gate.violation? ≠ some .reputationOutOfRange := by
  have sound : gate.Sound := by
    rcases counts with exact | few
    · have ranged := run.ranged_changes decays (fun _ _ => Or.inl exact) (Or.inl exact)
      exact (ranged.reordered reordered).sound
    · exact ((run.ranged decays clocks few).reordered reordered).sound
  exact ⟨sound, sound.violation?⟩

/-- A message that comes again from a second peer, and once more after a change to a tier that keeps
the peers apart. -/
theorem value_ranges_demoted : ∃ (past : List (Step Rat)) (e : Engine Rat),
    @Run Rat decayingScalar (@Config.ofTier Rat decayingScalar .enterprise) 0 past e ∧
      past.length = 4 ∧ @ExpDecays Rat decayingScalar ∧
      (∀ step ∈ past, step.now < UInt64.size) ∧ e.store.entries.map Entry.seenCount = [2, 1] ∧
      e.peers.keys = ["p", "q"] ∧ @Engine.Sound Rat decayingScalar e ∧
      @Engine.violation? Rat decayingScalar e ≠ some .entryOutOfRange ∧
      @Engine.violation? Rat decayingScalar e ≠ some .reputationOutOfRange := by
  let _ := decayingScalar
  let _ := roundedScalar_exact fun q => 1 / (1 - q)
  have usable : (Config.ofTier .enterprise : Config Rat).problem? = none := by decide +kernel
  let first : Message := ⟨"a", "block", "p", .empty⟩
  let second : Message := ⟨"a", "block", "q", .empty⟩
  have reaches : (Engine.assemble (Config.ofTier .enterprise : Config Rat)
      (Config.minTtl_le_maxTtl_ofTier .enterprise) 0).engine.reaches
        [(0, .message first), (60000, .message second), (60000, .setTier "BUSINESS"),
          (90000, .message first)]
        (fun e => decide (e.store.entries.map Entry.seenCount = [2, 1] ∧ e.peers.keys = ["p", "q"])) =
        true := by
    decide +kernel
  obtain ⟨past, e, run, length, requests, facts⟩ := Run.of_reaches usable reaches
  obtain ⟨seen, peers⟩ := of_decide_eq_true facts
  have clocks : ∀ step ∈ past, step.now < UInt64.size := by
    intro step member
    have request : step.request.1 ∈ [0, 60000, 60000, 90000] :=
      List.mem_map_of_mem (requests step member)
    have late : ∀ reading ∈ [0, 60000, 60000, 90000], reading < UInt64.size := by decide
    exact late _ request
  exact ⟨past, e, run, length, expDecays_decaying, clocks, seen, peers,
    run.value_ranges (Engine.Reordered.refl e) expDecays_decaying clocks
      (Or.inl fun x => ⟨x, rfl⟩)⟩

end GossipGate
