import GossipGate.Proofs.Clamping
import GossipGate.Proofs.Survivors

namespace GossipGate

/-! ### Filters that take nothing away -/

namespace Table

variable {κ ν : Type} {t : Table κ ν}

theorem filter_eq_self {keep : κ → ν → Bool}
    (all : ∀ pair ∈ t.entries, keep pair.1 pair.2 = true) : t.filter keep = t :=
  Table.ext (List.filter_eq_self.2 all)

theorem filter_filter (keep : κ → ν → Bool) : (t.filter keep).filter keep = t.filter keep :=
  filter_eq_self fun _ member => (List.mem_filter.1 member).2

theorem size_filter_le (keep : κ → ν → Bool) : (t.filter keep).size ≤ t.size :=
  List.length_filter_le _ _

end Table

section Kept

variable {α : Type} {keep : Entry α → Bool}

theorem Shard.retain_eq_self {shard : Shard α}
    (all : ∀ pair ∈ shard.entries.entries, keep pair.2 = true) : shard.retain keep = shard := by
  have stays : shard.entries.values.filter (fun entry => !keep entry) = [] := by
    refine List.filter_eq_nil_iff.2 fun entry member => ?_
    obtain ⟨pair, among, rfl⟩ := List.mem_map.1 member
    simp [all pair among]
  have entries : shard.entries.filter (fun _ entry => keep entry) = shard.entries :=
    Table.filter_eq_self all
  simp only [Shard.retain, stays, entries, List.any_nil, Bool.not_false, List.filter_true]

theorem Store.retain_eq_self {s : Store α} (all : ∀ pair ∈ s.toList, keep pair.2 = true) :
    s.retain keep = (s, 0) := by
  have stays : s.entries.filter (fun entry => !keep entry) = [] := by
    refine List.filter_eq_nil_iff.2 fun entry member => ?_
    obtain ⟨pair, among, rfl⟩ := List.mem_map.1 member
    simp [all pair among]
  have shards : s.shards.map (fun shard => shard.retain keep) = s.shards := by
    refine List.map_congr_left (g := id) (fun shard member => ?_) |>.trans s.shards.map_id
    exact Shard.retain_eq_self fun pair among =>
      all pair (List.mem_flatMap.2 ⟨shard, member, among⟩)
  simp only [Store.retain, stays, shards, List.length_nil, Nat.sub_zero]

end Kept

variable {α : Type} [Scalar α] [RoundedScalar α]

/-! ### Weights of at most one -/

namespace Scalar

variable {x w lo hi : α} {p : Rat} {k : Nat}

theorem upTo_ofNat {n : Nat} (short : n ≤ 2 ^ k) (few : k ≤ 1000) : UpTo k (ofNat n : α) := by
  obtain ⟨v, value, rounds⟩ := RoundedScalar.ofNat (α := α) short few
  exact ⟨v, value, rounds.nonneg (Nat.cast_nonneg n), rounds.le_two_pow (by exact_mod_cast short)⟩

theorem UpTo.mul (own : UpTo k x) (weight : UpTo 0 w) (few : k ≤ 1000) : UpTo k (x * w) := by
  obtain ⟨q, value, positive, le_one⟩ := weight
  rw [pow_zero] at le_one
  obtain ⟨v, product, above, below⟩ := own.scale value positive le_one few
  exact ⟨v, product, above, below.trans (mul_le_of_le_one_right (by positivity) le_one)⟩

/-- A weight of at most one makes nothing larger, although the product is rounded. -/
theorem UpTo.mul_le (own : UpTo k x) (weight : UpTo 0 w) (few : k ≤ 1000) : x * w ≤ x := by
  obtain ⟨p, value, positive, le⟩ := own
  obtain ⟨q, factor, above, le_one⟩ := weight
  rw [pow_zero] at le_one
  have product : p * q ≤ p := mul_le_of_le_one_right positive le_one
  have bounded : |p * q| ≤ 2 ^ k := by
    rw [abs_of_nonneg (mul_nonneg positive above)]
    exact product.trans le
  obtain ⟨v, result, rounds⟩ := RoundedScalar.mul value factor bounded few
  exact (RoundedScalar.le_iff result value).2
    (rounds.mono (RoundedScalar.rounds_value value) product)

/-- What clamping leaves is a number from zero to one, where it compares at all. -/
theorem Clamped.upTo [ComparedScalar α] (lower : value? lo = some p) (positive : 0 ≤ p)
    (clamped : Clamped lo hi x) (compared : x ≤ 1.0) : UpTo 0 x := by
  have negative : value? (-1.0 : α) = some (-1) :=
    RoundedScalar.neg value?_one (k := 0) (by norm_num) (by norm_num)
  have below : (-1.0 : α) < lo := (RoundedScalar.lt_iff negative lower).2 (by linarith)
  obtain ⟨v, value⟩ :=
    exists_value?_of_not_lt negative value?_one below clamped.notBelow compared
  have notBelow := clamped.notBelow
  rw [RoundedScalar.lt_iff value lower, not_lt] at notBelow
  refine ⟨v, value, positive.trans notBelow, ?_⟩
  rw [pow_zero]
  exact (RoundedScalar.le_iff value value?_one).1 compared

end Scalar

open Scalar

namespace Engine

variable {e : Engine α} {now : Nat} {entry : Entry α}

/-- How long an entry would be kept if nothing were known of its owner. -/
def unownedMillis (e : Engine α) (entry : Entry α) : α :=
  let full : α := Scalar.ofNat (e.entryTtl entry).millis
  if e.profile.confidenceScoring && entry.confidence < e.tuning.confidenceThreshold then
    full * entry.confidence
  else full

omit [RoundedScalar α] in
theorem retentionMillis_eq (e : Engine α) (entry : Entry α) :
    e.retentionMillis entry = match e.ownerScore? entry with
      | some score => if score < 0.3 then e.unownedMillis entry * score else e.unownedMillis entry
      | none => e.unownedMillis entry := rfl

variable [ComparedScalar α]

theorem Clamped.unowned_upTo (clamped : e.Clamped) (own : entry.Clamped) :
    UpTo 74 (e.unownedMillis entry) := by
  have short : (e.entryTtl entry).millis ≤ 2 ^ 74 := by
    have bounded := (e.entryTtl entry).nanos_lt
    show _ / 1000000 ≤ _
    omega
  have full : UpTo 74 (Scalar.ofNat (e.entryTtl entry).millis : α) :=
    upTo_ofNat short (by norm_num)
  unfold unownedMillis
  dsimp only
  split
  · rename_i cut
    obtain ⟨q, lower, positive, _⟩ := value?_tenth (α := α)
    have below : entry.confidence < e.tuning.confidenceThreshold := by
      simpa using (Bool.and_eq_true_iff.1 cut).2
    exact full.mul (own.confidence.upTo lower positive (le_trans (le_of_lt below)
      clamped.threshold)) (by norm_num)
  · exact full

/-- The score of an owner does not lengthen the time for which an entry is kept. -/
theorem Clamped.retention_le (clamped : e.Clamped) (own : entry.Clamped) :
    e.retentionMillis entry ≤ e.unownedMillis entry := by
  have whole := clamped.unowned_upTo own
  have ⟨v, value, _⟩ := whole
  have same : e.unownedMillis entry ≤ e.unownedMillis entry :=
    (RoundedScalar.le_iff value value).2 le_rfl
  rw [retentionMillis_eq]
  split
  · rename_i score known
    split
    · rename_i low
      have third : (0.3 : α) ≤ 1.0 := by
        obtain ⟨r, own, rounds⟩ := RoundedScalar.decimal (α := α) (m := 3) (e := 1) (by norm_num)
          (by norm_num)
        exact (RoundedScalar.le_iff own value?_one).2
          (rounds.mono Rounding.rounds_one (by norm_num))
      have weight := (clamped.ownerScore known).upTo value?_zero le_rfl (le_trans (le_of_lt low) third)
      exact whole.mul_le weight (by norm_num)
    · exact same
  · exact same

omit [RoundedScalar α] [ComparedScalar α] in
/-- After a cleanup an owner has the score that it had, or is forgotten. -/
theorem ownerScore_cleanup (e : Engine α) (now : Nat) (entry : Entry α) :
    (e.cleanup now).engine.ownerScore? entry = e.ownerScore? entry ∨
      (e.cleanup now).engine.ownerScore? entry = none := by
  have profile : (e.cleanup now).engine.profile = e.profile := rfl
  unfold ownerScore?
  rw [profile, cleanup_peers]
  split
  · cases e.peers.get? entry.peer with
    | none => exact Or.inl rfl
    | some record =>
      cases idle : record.isIdle now e.tuning.reputationDecay with
      | true => right; simp [idle]
      | false => left; simp [idle]
  · exact Or.inl rfl

/-- What a cleanup keeps, the next one keeps too, although the records that shortened its time may
be gone. -/
theorem Clamped.isKept_cleanup (clamped : e.Clamped) (own : entry.Clamped)
    (kept : e.isKept now entry = true) : (e.cleanup now).engine.isKept now entry = true := by
  have unowned : (e.cleanup now).engine.unownedMillis entry = e.unownedMillis entry := rfl
  unfold isKept at kept ⊢
  rw [decide_eq_true_eq] at kept ⊢
  rcases ownerScore_cleanup e now entry with same | forgotten
  · rw [retentionMillis_eq, same, unowned, ← retentionMillis_eq]
    exact kept
  · rw [retentionMillis_eq, forgotten, unowned]
    exact le_trans kept (clamped.retention_le own)

/-- What one cleanup does: it takes entries and records away, changes nothing else and counts what
is gone. -/
structure Sweeps (e : Engine α) (now : Nat) (reply : Reply α CleanupCounts) : Prop where
  rest : reply.engine = { e with store := reply.engine.store, peers := reply.engine.peers }
  store : reply.engine.store =
    { e.store with shards := reply.engine.store.shards, size := reply.engine.store.size }
  kept : ∀ key entry, reply.engine.store.get? key = some entry ↔
    e.store.get? key = some entry ∧ e.isKept now entry = true
  known : ∀ peer record, reply.engine.peers.get? peer = some record ↔
    e.peers.get? peer = some record ∧ record.isIdle now e.tuning.reputationDecay = false
  fewer : reply.engine.store.size + reply.value.entries = e.store.size
  counted : reply.engine.store.counted + reply.value.entries = e.store.counted
  forgotten : reply.engine.peers.size + reply.value.peers = e.peers.size

omit [RoundedScalar α] [ComparedScalar α] in
theorem sweeps_cleanup {items : List (Key × Entry α)} (holds : e.store.Holds items) (now : Nat) :
    e.Sweeps now (e.cleanup now) := by
  obtain ⟨left, count⟩ := holds.retain (e.isKept now)
  have less := List.length_filter_le (fun item => e.isKept now item.2) items
  have size : (e.cleanup now).engine.store.size + (e.cleanup now).value.entries =
      e.store.size := by
    show (e.store.retain (e.isKept now)).1.size + (e.store.retain (e.isKept now)).2 = _
    rw [left.size_eq, count, holds.size_eq]
    omega
  have counted : (e.cleanup now).engine.store.counted = (e.cleanup now).engine.store.size :=
    left.counted_eq
  refine ⟨rfl, rfl, fun key entry => ?_, fun peer record => ?_, size, ?_, ?_⟩
  · show (e.store.retain (e.isKept now)).1.get? key = some entry ↔ _
    rw [left.lookup, List.mem_filter, holds.lookup]
  · rw [cleanup_peers, Option.filter_eq_some_iff, Bool.not_eq_true']
  · rw [counted, holds.counted_eq]
    exact size
  · exact Nat.add_sub_cancel' (Table.size_filter_le _)

omit [RoundedScalar α] [ComparedScalar α] in
theorem cleanup_eq_self (stored : e.store.retain (e.isKept now) = (e.store, 0))
    (known : e.peers.filter (fun _ record => !record.isIdle now e.tuning.reputationDecay) =
      e.peers) : e.cleanup now = ⟨e, ⟨0, 0⟩, []⟩ := by
  unfold cleanup
  simp only [stored, known, Nat.sub_self]
  rfl

/-- A cleanup right after another one finds nothing. -/
theorem Clamped.cleanup_again (clamped : e.Clamped) {again : Engine α}
    (reordered : (e.cleanup now).engine.Reordered again) :
    again.cleanup now = ⟨again, ⟨0, 0⟩, []⟩ := by
  obtain ⟨items, holds, _⟩ := clamped.held
  obtain ⟨store, sameStore, rfl⟩ := reordered
  have left := (holds.retain (e.isKept now)).1.reordered sameStore
  have known : (e.peers.filter fun _ record => !record.isIdle now e.tuning.reputationDecay).filter
      (fun _ record => !record.isIdle now e.tuning.reputationDecay) =
        e.peers.filter fun _ record => !record.isIdle now e.tuning.reputationDecay :=
    Table.filter_filter _
  refine cleanup_eq_self (Store.retain_eq_self fun pair among => ?_) known
  obtain ⟨member, kept⟩ := List.mem_filter.1 (left.perm.mem_iff.1 among)
  exact clamped.isKept_cleanup (clamped.entries pair.1 pair.2 ((holds.lookup _ _).2 member)) kept

end Engine

/-- A cleanup only removes and counts what it removes. A second one at the same time does nothing,
whatever records of peers the first one took away. -/
theorem Run.cleanup_idempotent [ComparedScalar α] {c : Config α} {opened : Nat}
    {past : List (Step α)} {e gate : Engine α} (run : Run c opened past e)
    (reordered : e.Reordered gate) (now : Nat) :
    gate.perform now .cleanup = .ok ((gate.cleanup now).map .removed) ∧
      gate.Sweeps now (gate.cleanup now) ∧
      ∀ again, (gate.cleanup now).engine.Reordered again →
        again.perform now .cleanup = .ok ⟨again, .removed ⟨0, 0⟩, []⟩ := by
  have clamped := run.clamped.reordered reordered
  obtain ⟨items, holds, _⟩ := clamped.held
  refine ⟨rfl, Engine.sweeps_cleanup holds now, fun again sameStore => ?_⟩
  show Except.ok ((again.cleanup now).map Answer.removed) = _
  rw [clamped.cleanup_again sameStore]
  rfl

/-- Settings of the BUSINESS tier under which scores follow the latest outcome and records of peers
are soon idle. -/
def forgetfulConfig (α : Type) [Scalar α] : Config α :=
  { Config.ofTier .business with learningRate := 1.0, reputationDecay := .ofMillis 1 }

/-- A peer that repeats itself loses its score and then its record, while its entry stays. -/
theorem cleanup_idempotent_forgotten : ∃ (past : List (Step Rat)) (e : Engine Rat),
    @Run Rat decayingScalar (@forgetfulConfig Rat decayingScalar) 0 past e ∧ e.Reordered e ∧
      ((e.peers.get? "p").any fun record => decide (record.score < 0.3)) = true ∧
      (@Engine.cleanup Rat decayingScalar e 1000).value = ⟨0, 1⟩ ∧
      (@Engine.cleanup Rat decayingScalar e 1000).engine.store.size = 1 ∧
      @Engine.perform Rat decayingScalar e 1000 .cleanup =
        .ok ((@Engine.cleanup Rat decayingScalar e 1000).map .removed) ∧
      @Engine.Sweeps Rat decayingScalar e 1000 (@Engine.cleanup Rat decayingScalar e 1000) ∧
      ∀ again, (@Engine.cleanup Rat decayingScalar e 1000).engine.Reordered again →
        @Engine.perform Rat decayingScalar again 1000 .cleanup =
          .ok ⟨again, .removed ⟨0, 0⟩, []⟩ := by
  let _ := decayingScalar
  let _ := roundedScalar_exact fun q => 1 / (1 - q)
  have _ : ComparedScalar Rat := comparedScalar_exact fun q => 1 / (1 - q)
  have usable : (forgetfulConfig Rat).problem? = none := by decide +kernel
  let message : Message := ⟨"a", "block", "p", .empty⟩
  have reaches : (Engine.assemble (forgetfulConfig Rat)
      (Config.minTtl_le_maxTtl_ofTier (α := Rat) .business) 0).engine.reaches
        (List.replicate 6 (0, .message message)) (fun e =>
          (e.peers.get? "p").any (fun record => decide (record.score < 0.3)) &&
          decide ((e.cleanup 1000).value = ⟨0, 1⟩ ∧ (e.cleanup 1000).engine.store.size = 1)) =
        true := by
    decide +kernel
  obtain ⟨past, e, run, _, _, facts⟩ := Run.of_reaches usable reaches
  obtain ⟨low, counts⟩ := Bool.and_eq_true_iff.1 facts
  obtain ⟨removed, size⟩ := of_decide_eq_true counts
  exact ⟨past, e, run, .refl e, low, removed, size, run.cleanup_idempotent (.refl e) 1000⟩

end GossipGate
