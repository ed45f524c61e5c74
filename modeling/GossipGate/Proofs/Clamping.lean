import GossipGate.Proofs.Ranges

namespace GossipGate

variable {α : Type} [Scalar α]

/-- Comparisons hold between numbers only, and there by their places in a linear order. A NaN
compares with nothing. -/
class ComparedScalar (α : Type) [Scalar α] : Prop where
  exists_place : ∃ (Place : Type) (_ : LinearOrder Place) (place : α → Place), ∀ x y : α,
    (x < y ↔ Scalar.IsNumber x ∧ Scalar.IsNumber y ∧ place x < place y) ∧
      (x ≤ y ↔ Scalar.IsNumber x ∧ Scalar.IsNumber y ∧ place x ≤ place y)

theorem comparedScalar_exact (exp : Rat → Rat) : @ComparedScalar Rat (exactScalar exp) := by
  let _ := exactScalar exp
  have number : ∀ x : Rat, Scalar.IsNumber x := fun x => beq_self_eq_true x
  exact ⟨Rat, inferInstance, id, fun x y => ⟨by simp [number], by simp [number]⟩⟩

open Float.Model in
/-- What compares at all is not a NaN, on either side. -/
theorem ne_notANumber_of_compare {x y : UnpackedFloat} {order : Ordering}
    (compared : x.compare y = some order) : x ≠ .notANumber ∧ y ≠ .notANumber := by
  constructor
  · rintro rfl
    cases y <;> cases compared
  · rintro rfl
    cases x <;> cases compared

open Float.Model in
theorem isNumber_iff_unpack {x : Float} :
    Scalar.IsNumber x ↔ x.toModel.unpack ≠ .notANumber := by
  refine ⟨unpack_ne_notANumber, fun number => ?_⟩
  show (x.toModel.unpack.compare x.toModel.unpack == some .eq) = true
  rw [(compare_eq_iff_unpackedPlace number number).2 rfl]
  rfl

instance : ComparedScalar Float where
  exists_place := by
    refine ⟨Int ×ₗ Int ×ₗ Int, inferInstance, fun x => unpackedPlace x.toModel.unpack, ?_⟩
    intro x y
    simp only [isNumber_iff_unpack]
    have below : x < y ↔ x.toModel.unpack.compare y.toModel.unpack = some .lt := by
      show decide ((x.toModel.unpack.compare y.toModel.unpack == some .lt) = true) = true ↔ _
      simp
    have atMost : x ≤ y ↔ x.toModel.unpack.compare y.toModel.unpack = some .lt ∨
        x.toModel.unpack.compare y.toModel.unpack = some .eq := by
      show decide ((x.toModel.unpack.compare y.toModel.unpack).any Ordering.isLE = true) = true ↔ _
      cases x.toModel.unpack.compare y.toModel.unpack with
      | none => simp
      | some order => cases order <;> simp
    rw [below, atMost]
    by_cases numbers : x.toModel.unpack ≠ .notANumber ∧ y.toModel.unpack ≠ .notANumber
    · obtain ⟨left, right⟩ := numbers
      rw [compare_lt_iff_unpackedPlace left right, compare_eq_iff_unpackedPlace left right,
        ← le_iff_lt_or_eq]
      simp [left, right]
    · have apart : ∀ order, x.toModel.unpack.compare y.toModel.unpack ≠ some order :=
        fun order compared => numbers (ne_notANumber_of_compare compared)
      simp only [apart, or_self, ← and_assoc, numbers, false_and, and_self]

namespace Scalar

variable {x y z low : α} {p q : Rat}

section Compared

variable [ComparedScalar α]

theorem le_trans (first : x ≤ y) (second : y ≤ z) : x ≤ z := by
  obtain ⟨_, _, place, compares⟩ := ComparedScalar.exists_place (α := α)
  rw [(compares x y).2] at first
  rw [(compares y z).2] at second
  exact (compares x z).2.2 ⟨first.1, second.2.1, first.2.2.trans second.2.2⟩

theorem le_of_lt (below : x < y) : x ≤ y := by
  obtain ⟨_, _, place, compares⟩ := ComparedScalar.exists_place (α := α)
  obtain ⟨left, right, lower⟩ := (compares x y).1.1 below
  exact (compares x y).2.2 ⟨left, right, lower.le⟩

theorem lt_of_lt_of_le (below : x < y) (le : y ≤ z) : x < z := by
  obtain ⟨_, _, place, compares⟩ := ComparedScalar.exists_place (α := α)
  obtain ⟨left, _, lower⟩ := (compares x y).1.1 below
  obtain ⟨_, right, order⟩ := (compares y z).2.1 le
  exact (compares x z).1.2 ⟨left, right, lower.trans_le order⟩

theorem lt_of_le_of_lt (le : x ≤ y) (below : y < z) : x < z := by
  obtain ⟨_, _, place, compares⟩ := ComparedScalar.exists_place (α := α)
  obtain ⟨left, _, order⟩ := (compares x y).2.1 le
  obtain ⟨_, right, lower⟩ := (compares y z).1.1 below
  exact (compares x z).1.2 ⟨left, right, order.trans_lt lower⟩

theorem isNumber_of_le (le : x ≤ y) : IsNumber y := by
  obtain ⟨_, _, place, compares⟩ := ComparedScalar.exists_place (α := α)
  exact ((compares x y).2.1 le).2.1

theorem isNumber_of_lt (below : x < y) : IsNumber y := isNumber_of_le (le_of_lt below)

theorem not_lt_of_le (le : x ≤ y) : ¬y < x := by
  obtain ⟨_, _, place, compares⟩ := ComparedScalar.exists_place (α := α)
  exact fun above => not_lt.2 ((compares x y).2.1 le).2.2 ((compares y x).1.1 above).2.2

theorem not_le_iff (number : IsNumber y) : ¬x ≤ y ↔ y < x ∨ ¬IsNumber x := by
  obtain ⟨_, _, place, compares⟩ := ComparedScalar.exists_place (α := α)
  rw [(compares x y).2, (compares y x).1]
  by_cases own : IsNumber x
  · simp [own, number]
  · simp [own]

/-- A number that compares with another lies above whatever is below a number that it is not
below. -/
theorem lt_of_lt_of_not_lt (below : low < x) (notBelow : ¬z < x) (compared : z ≤ y) :
    low < z := by
  obtain ⟨_, _, place, compares⟩ := ComparedScalar.exists_place (α := α)
  obtain ⟨first, number, lower⟩ := (compares low x).1.1 below
  have own := ((compares z y).2.1 compared).1
  refine (compares low z).1.2 ⟨first, own, lower.trans_le (not_lt.1 fun above => notBelow ?_)⟩
  exact (compares z x).1.2 ⟨own, number, above⟩

/-- What compares with a value and is not below another one has a value. -/
theorem exists_value?_of_not_lt [RoundedScalar α] (lower : value? low = some p)
    (upper : value? y = some q) (below : low < x) (notBelow : ¬z < x) (compared : z ≤ y) :
    ∃ v, value? z = some v :=
  RoundedScalar.between lower upper (lt_of_lt_of_not_lt below notBelow compared) compared

end Compared

theorem isNumber_of_value? [RoundedScalar α] (value : value? x = some p) : IsNumber x :=
  (RoundedScalar.beq_iff value value).2 rfl

/-- A number that lies on neither side of an interval. So does a NaN. -/
structure Clamped (lo hi x : α) : Prop where
  notBelow : ¬x < lo
  notAbove : ¬hi < x

variable [RoundedScalar α]

theorem clamped_clamp {lo hi : α} (lower : value? lo = some p) (upper : value? hi = some q)
    (ordered : p ≤ q) (x : α) : Clamped lo hi (clamp lo hi x) := by
  have self {y : α} {r : Rat} (own : value? y = some r) : ¬y < y := by
    rw [RoundedScalar.lt_iff own own]
    exact lt_irrefl r
  have across : ¬hi < lo := by
    rw [RoundedScalar.lt_iff upper lower]
    exact not_lt.2 ordered
  unfold clamp
  split
  · exact ⟨self lower, across⟩
  rename_i notBelow
  split
  · exact ⟨across, self upper⟩
  rename_i notAbove
  exact ⟨notBelow, notAbove⟩

theorem clamped_score (x : α) : Clamped 0.0 1.0 (clamp 0.0 1.0 x) :=
  clamped_clamp value?_zero value?_one zero_le_one x

theorem clamped_confidence (x : α) : Clamped 0.1 1.0 (clamp 0.1 1.0 x) := by
  obtain ⟨q, lower, _, le_one⟩ := value?_tenth (α := α)
  exact clamped_clamp lower value?_one le_one x

theorem Inside.clamped {lo hi : α} (lower : value? lo = some p) (upper : value? hi = some q)
    (inside : Inside lo hi x) : Clamped lo hi x := by
  obtain ⟨v, value⟩ := inside.valued
  constructor
  · rw [RoundedScalar.lt_iff value lower, not_lt]
    exact (RoundedScalar.le_iff lower value).1 inside.above
  · rw [RoundedScalar.lt_iff upper value, not_lt]
    exact (RoundedScalar.le_iff value upper).1 inside.below

end Scalar

open Scalar

/-- Confidence and priority of an entry are what clamping leaves. -/
structure Entry.Clamped (entry : Entry α) : Prop where
  confidence : Scalar.Clamped 0.1 1.0 entry.confidence
  priority : 1 ≤ entry.priority ∧ entry.priority ≤ 15

namespace Engine

variable {e : Engine α} {now : Nat} {m : Message} {entry : Entry α}

/-- The numbers of a gate are what clamping leaves, whatever was calculated before. -/
structure Clamped (e : Engine α) : Prop where
  threshold : e.tuning.confidenceThreshold ≤ 1.0
  peers : ∀ peer record, e.peers.get? peer = some record → Scalar.Clamped 0.0 1.0 record.score
  held : ∃ items, e.store.Holds items ∧ 0 < e.store.capacity ∧ items.length ≤ e.store.capacity
  entries : ∀ key entry, e.store.get? key = some entry → entry.Clamped

theorem Clamped.throughout (clamped : e.Clamped) :
    e.Throughout (fun record => Scalar.Clamped 0.0 1.0 record.score) Entry.Clamped :=
  ⟨clamped.peers, clamped.held, clamped.entries⟩

theorem Throughout.clamped
    (all : e.Throughout (fun record => Scalar.Clamped 0.0 1.0 record.score) Entry.Clamped)
    (threshold : e.tuning.confidenceThreshold ≤ 1.0) : e.Clamped :=
  ⟨threshold, all.peers, all.held, all.entries⟩

theorem Clamped.congr {gate : Engine α} (clamped : e.Clamped) (tuning : gate.tuning = e.tuning)
    (peers : gate.peers = e.peers) (store : gate.store = e.store) : gate.Clamped :=
  (clamped.throughout.congr peers store).clamped (tuning ▸ clamped.threshold)

theorem Clamped.insert (clamped : e.Clamped) (peer : String) {record : Peer α}
    (own : Scalar.Clamped 0.0 1.0 record.score) :
    ({ e with peers := e.peers.insert peer record } : Engine α).Clamped :=
  (clamped.throughout.insert peer own).clamped clamped.threshold

theorem Clamped.ownerScore (clamped : e.Clamped) {score : α}
    (known : e.ownerScore? entry = some score) : Scalar.Clamped 0.0 1.0 score := by
  unfold ownerScore? at known
  split at known
  · obtain ⟨record, found, rfl⟩ := Option.map_eq_some_iff.1 known
    exact clamped.peers _ record found
  · cases known

theorem Clamped.cleanup (clamped : e.Clamped) (now : Nat) : (e.cleanup now).engine.Clamped :=
  (clamped.throughout.cleanup now).clamped clamped.threshold

theorem Clamped.reordered {gate : Engine α} (clamped : e.Clamped) (reordered : e.Reordered gate) :
    gate.Clamped := by
  refine (clamped.throughout.reordered reordered).clamped ?_
  obtain ⟨store, _, rfl⟩ := reordered
  exact clamped.threshold

theorem Clamped.retiered (clamped : e.Clamped) (now : Nat) (tier : Tier) :
    ({ e with profile := .ofTier tier, store := (e.shrunk now tier).1 } : Engine α).Clamped :=
  (clamped.throughout.retiered now tier).clamped clamped.threshold

variable [RoundedScalar α]

theorem Clamped.meet (clamped : e.Clamped) (peer : String) (now : Nat) :
    (e.meet peer now).1.Clamped := by
  have fresh : Peer.Ranged 0 (Peer.fresh peer now : Peer α) := Peer.ranged_fresh peer now
  have full : Scalar.Clamped (0.0 : α) 1.0 1.0 := fresh.score.clamped value?_zero value?_one
  have own : Scalar.Clamped 0.0 1.0 (e.peerRecord peer now).score := by
    unfold Engine.peerRecord
    cases found : e.peers.get? peer with
    | some known => exact clamped.peers peer known found
    | none =>
      dsimp only
      split <;> exact full
  unfold Engine.meet
  split
  · exact clamped.insert peer own
  · exact clamped

theorem Clamped.judge (clamped : e.Clamped) (peer : String) (duplicate : Bool) :
    (e.judge peer duplicate).1.Clamped := by
  unfold Engine.judge
  cases e.peers.get? peer with
  | none => exact clamped
  | some record =>
    refine clamped.insert peer ?_
    unfold Peer.settle
    dsimp only
    split <;> exact clamped_score _

theorem sightAgain_clamped (own : entry.Clamped) : (e.sightAgain now entry).Clamped := by
  unfold sightAgain
  dsimp only
  split
  · exact ⟨clamped_confidence _, own.priority⟩
  · exact ⟨own.confidence, own.priority⟩

theorem sighting_clamped (a : Arrival α) (m : Message) :
    Scalar.Clamped 0.1 1.0 (e.sighting a m).confidence := by
  unfold sighting
  dsimp only
  split
  · exact clamped_confidence _
  · obtain ⟨q, lower, _⟩ := value?_tenth (α := α)
    exact inside_one.clamped lower value?_one

theorem Clamped.tracked {a : Arrival α} (clamped : a.engine.Clamped) :
    (a.engine.withStore (lookUp now a m).store).Clamped := by
  have confidence := sighting_clamped (e := a.engine) a m
  have again : ∀ entry : Entry α, entry.Clamped → (a.engine.sightAgain now entry).Clamped :=
    fun _ own => sightAgain_clamped own
  have tracked := clamped.throughout.tracked (fun _ own => own) again
    (fun _ own => ⟨confidence, own.priority⟩) fun _ => ⟨confidence, entryPriority_range _ _ _ _⟩
  exact tracked.clamped clamped.threshold

theorem Clamped.moves (clamped : e.Clamped) {last : Engine α} (moves : e.Moves now last) :
    last.Clamped := by
  cases moves with
  | noted | measured | repeated => exact clamped.congr rfl rfl rfl
  | met _ peer => exact clamped.meet peer now
  | judged _ peer duplicate => exact clamped.judge peer duplicate
  | tracked a m _ => exact clamped.tracked
  | retiered _ shrinks =>
    rw [← shrinks]
    exact clamped.retiered now _
  | adjusted done =>
    obtain ⟨_, _, _, _, same⟩ := adjustTtl_fst done
    rw [same]
    exact clamped.congr rfl rfl rfl

end Engine

theorem Config.threshold_le {c : Config α} (usable : c.problem? = none) :
    c.confidenceThreshold ≤ 1.0 := (fits usable).confidence.2

/-- Along every run the numbers of a gate are what clamping leaves. Nothing is asked of clocks, of
the length of the run or of the exponential. -/
theorem Run.clamped [RoundedScalar α] {c : Config α} {opened : Nat} {past : List (Step α)}
    {e : Engine α} (run : Run c opened past e) : e.Clamped := by
  refine run.keeps_always Engine.Clamped ?_ (fun _ _ same kept => kept.reordered same)
    (fun now _ kept => kept.cleanup now) fun _ _ _ moves kept => kept.moves moves
  intro reply started
  refine (Engine.throughout_start started).clamped ?_
  have threshold := Config.threshold_le (Engine.start_usable started)
  obtain ⟨ordered, rfl⟩ := Engine.start_assemble started
  exact threshold

end GossipGate
