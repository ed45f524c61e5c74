import GossipGate.Proofs.FilterTtl

namespace GossipGate

namespace Duration

variable (a b : Duration)

theorem nanos_least : (a.least b).nanos = min a.nanos b.nanos := by
  unfold least
  split
  · rename_i le
    exact (Nat.min_eq_left le).symm
  · rename_i notLe
    exact (Nat.min_eq_right (Nat.le_of_not_le notLe)).symm

theorem nanos_greatest : (a.greatest b).nanos = max a.nanos b.nanos := by
  unfold greatest
  split
  · rename_i le
    exact (Nat.max_eq_right le).symm
  · rename_i notLe
    exact (Nat.max_eq_left (Nat.le_of_not_le notLe)).symm

theorem nanos_ofMillis_millisWord : (ofMillis a.millisWord).nanos = a.millisWord * 1000000 := by
  refine nanos_ofNanos ?_
  have word := a.millisWord_lt
  have size : UInt64.size = 18446744073709551616 := rfl
  unfold limit
  omega

end Duration

section Fresh

variable {α : Type} [Scalar α] {c : Config α} {opened : Nat} {reply : Reply α Unit}

/-- A gate that was just opened counts its initial TTL in a word of milliseconds. -/
theorem Engine.start_globalTtl (started : Engine.start c opened = .ok reply) :
    reply.engine.globalTtl = .ofMillis c.effectiveBaseTtl.millisWord :=
  congrArg Duration.ofMillis (Run.start started).ttlMillis_eq

/-- The audit of a gate that was just opened finds nothing but a TTL outside the bounds. -/
theorem Engine.start_violation? (started : Engine.start c opened = .ok reply) :
    reply.engine.violation? =
      if c.bounds.contains reply.engine.globalTtl then none else some .ttlOutOfBounds := by
  obtain ⟨ordered, rfl⟩ := start_assemble started
  have holds := Store.holds_empty (α := α) c.effectiveShards c.effectiveCapacity Key.fingerprint
  have nothing : (assemble c ordered opened).engine.store.toList = [] := holds.perm.eq_nil
  have entries : (assemble c ordered opened).engine.store.entries.all Entry.inRange = true := by
    unfold Store.entries
    rw [nothing]
    rfl
  have counted : (assemble c ordered opened).engine.store.counted = 0 :=
    congrArg List.length nothing
  have types : (assemble c ordered opened).engine.traffic.values.all
      (fun t => c.bounds.contains t.ttl) = true := rfl
  have peers : (assemble c ordered opened).engine.peers.values.all Peer.inRange = true := rfl
  have size : (assemble c ordered opened).engine.store.size = 0 := rfl
  have bounds : (assemble c ordered opened).engine.tuning.window.toTtlBounds = c.bounds := rfl
  unfold violation? fits
  dsimp only
  rw [bounds, types, entries, peers, size, counted]
  cases c.bounds.contains (assemble c ordered opened).engine.globalTtl with
  | true => simp
  | false => simp

end Fresh

namespace SeenFilter

/-! ### The TTL and the bounds of a filter -/

/-- The bounds of every filter, before it widens them. -/
def defaultBounds : TtlBounds := ⟨.ofSeconds 5, .ofMinutes 30⟩

/-- The TTL of a filter: the one that was asked for, or the default. -/
def requested (ttl : Duration) : Duration := if ttl.isZero then .ofMinutes 5 else ttl

/-- The default bounds, widened by the TTL that was asked for. -/
def widened (ttl : Duration) : TtlBounds :=
  if ttl.isZero then defaultBounds else defaultBounds.including ttl

/-- A TTL that starts inside the bounds it widened: below five seconds one of whole milliseconds,
and from there on one that keeps five seconds of its count in a 64-bit word. -/
def Countable (ttl : Duration) : Prop :=
  if ttl < .ofSeconds 5 then ttl.nanos % 1000000 = 0 else 5000 ≤ ttl.millisWord

section Settings

variable {α : Type} [Scalar α] (capacity : UInt64) (ttl : Duration)

theorem config_bounds : (config capacity ttl : Config α).bounds = widened ttl := by
  unfold config widened
  split <;> split <;> rfl

theorem config_requested : (config capacity ttl : Config α).effectiveBaseTtl = requested ttl := by
  unfold config requested
  split <;> split <;> rfl

/-- Other settings of the tier are kept. -/
theorem config_kept :
    (config capacity ttl : Config α).learningRate = (Config.ofTier .free : Config α).learningRate ∧
      (config capacity ttl : Config α).confidenceThreshold =
        (Config.ofTier .free : Config α).confidenceThreshold ∧
      (config capacity ttl : Config α).anomalyThreshold =
        (Config.ofTier .free : Config α).anomalyThreshold ∧
      (config capacity ttl : Config α).effectiveShards =
        (Config.ofTier .free : Config α).effectiveShards ∧
      (config capacity ttl : Config α).adjustEvery =
        (Config.ofTier .free : Config α).adjustEvery := by
  unfold config
  split <;> split <;> exact ⟨rfl, rfl, rfl, rfl, rfl⟩

theorem config_capacity_pos : 0 < (config capacity ttl : Config α).effectiveCapacity := by
  unfold config
  split
  · have tier : 0 < Tier.free.capacity := by decide
    split <;> exact tier
  · rename_i nonzero
    have own : 0 < capacity.toNat :=
      Nat.pos_of_ne_zero fun zero => nonzero (UInt64.toNat_inj.1 zero)
    split <;> exact own

end Settings

section Bounds

variable {ttl : Duration}

theorem isZero_eq_true (zero : ttl.isZero = true) : ttl = .zero :=
  Duration.ext (Duration.isZero_iff.1 zero)

theorem requested_of_nonzero (nonzero : ttl.isZero = false) : requested ttl = ttl := by
  unfold requested
  rw [nonzero]
  rfl

theorem nanos_widened (nonzero : ttl.isZero = false) :
    (widened ttl).min.nanos = min 5000000000 ttl.nanos ∧
      (widened ttl).max.nanos = max 1800000000000 ttl.nanos := by
  unfold widened
  rw [nonzero]
  exact ⟨Duration.nanos_least _ _, Duration.nanos_greatest _ _⟩

variable (ttl)

theorem widened_contains : (widened ttl).contains (requested ttl) = true := by
  cases zero : ttl.isZero with
  | true =>
    rw [isZero_eq_true zero]
    decide
  | false =>
    obtain ⟨least, most⟩ := nanos_widened zero
    rw [requested_of_nonzero zero, TtlBounds.contains_iff, least, most]
    omega

theorem widened_pos : 0 < (widened ttl).min.nanos := by
  cases zero : ttl.isZero with
  | true =>
    rw [isZero_eq_true zero]
    decide
  | false =>
    have own : ttl.nanos ≠ 0 := fun nothing => by
      rw [Duration.isZero_iff.2 nothing] at zero
      cases zero
    rw [(nanos_widened zero).1]
    omega

theorem countable_iff : Countable ttl ↔
    ttl.nanos < 5000000000 ∧ ttl.nanos % 1000000 = 0 ∨
      5000000000 ≤ ttl.nanos ∧ 5000 ≤ ttl.nanos / 1000000 % 18446744073709551616 := by
  have five : (Duration.ofSeconds 5).nanos = 5000000000 := rfl
  have word : ttl.millisWord = ttl.nanos / 1000000 % 18446744073709551616 := rfl
  unfold Countable
  split
  · rename_i short
    rw [Duration.lt_def, five] at short
    omega
  · rename_i long
    rw [Duration.lt_def, five] at long
    rw [word]
    omega

/-- The initial TTL as it is counted stays inside the bounds exactly for the countable ones. -/
theorem widened_contains_iff :
    (widened ttl).contains (.ofMillis (requested ttl).millisWord) = true ↔ Countable ttl := by
  cases zero : ttl.isZero with
  | true =>
    rw [isZero_eq_true zero]
    unfold Countable
    decide
  | false =>
    obtain ⟨least, most⟩ := nanos_widened zero
    have word : ttl.millisWord = ttl.nanos / 1000000 % 18446744073709551616 := rfl
    rw [requested_of_nonzero zero, TtlBounds.contains_iff, least, most,
      Duration.nanos_ofMillis_millisWord, word, countable_iff]
    omega

/-- Within the word only fractions of a millisecond below five seconds are not countable. -/
theorem countable_iff_of_short (short : ttl.millis < UInt64.size) :
    Countable ttl ↔ .ofSeconds 5 ≤ ttl ∨ ttl.nanos % 1000000 = 0 := by
  have five : (Duration.ofSeconds 5).nanos = 5000000000 := rfl
  have fits : ttl.nanos / 1000000 < 18446744073709551616 := short
  rw [countable_iff, Duration.le_def, five, Nat.mod_eq_of_lt fits]
  omega

end Bounds

/-- The settings of a filter fit where those of its tier do. -/
theorem config_fits {α : Type} [Scalar α] (usual : (Config.ofTier .free : Config α).Fits)
    (capacity : UInt64) (ttl : Duration) : (config capacity ttl : Config α).Fits := by
  have bounds : (config capacity ttl : Config α).bounds = widened ttl := config_bounds capacity ttl
  have least : (config capacity ttl : Config α).minTtl = (widened ttl).min :=
    congrArg TtlBounds.min bounds
  have most : (config capacity ttl : Config α).maxTtl = (widened ttl).max :=
    congrArg TtlBounds.max bounds
  have base := config_requested (α := α) capacity ttl
  have inside := TtlBounds.contains_iff.1 (widened_contains ttl)
  obtain ⟨rate, confidence, _, shards, interval⟩ := config_kept (α := α) capacity ttl
  exact
    { capacity := config_capacity_pos capacity ttl
      minTtl := by rw [least]; exact widened_pos ttl
      ordered := by rw [least, most]; exact Nat.le_trans inside.1 inside.2
      above := by rw [least, base]; exact inside.1
      below := by rw [most, base]; exact inside.2
      learningRate := by rw [rate]; exact usual.learningRate
      confidence := by rw [confidence]; exact usual.confidence
      shards := by rw [shards]; exact usual.shards
      interval := by rw [interval]; exact usual.interval }

/-- Every filter opens, and its audit finds a TTL outside the bounds exactly where the one that was
asked for is not countable. -/
theorem start_countable (capacity : UInt64) (ttl : Duration) (now : Nat) :
    ∃ (f : SeenFilter Float) (events : List (Event Float)),
      start capacity ttl now = .ok (f, events) ∧
      f.engine.tuning.window.toTtlBounds = widened ttl ∧
      (widened ttl).contains (requested ttl) = true ∧
      ((widened ttl).contains f.engine.globalTtl = true ↔ Countable ttl) ∧
      (Countable ttl → f.engine.violation? = none) ∧
      (¬Countable ttl → f.engine.violation? = some .ttlOutOfBounds) ∧
      (ttl.millis < UInt64.size →
        (Countable ttl ↔ .ofSeconds 5 ≤ ttl ∨ ttl.nanos % 1000000 = 0)) := by
  have default : (Config.ofTier .free : Config Float).problem? = none := by decide +kernel
  have usual := Config.problem?_eq_none_iff.1 default
  have anomaly := (config_kept (α := Float) capacity ttl).2.2.1
  have usable : (config capacity ttl : Config Float).problem? = none :=
    Config.problem?_eq_none_iff.2 ⟨config_fits usual.1 capacity ttl, anomaly ▸ usual.2⟩
  obtain ⟨reply, started⟩ : ∃ reply, Engine.start (config capacity ttl : Config Float) now =
    .ok reply := ⟨_, Engine.start_eq usable now⟩
  have opened : start capacity ttl now = .ok (⟨reply.engine⟩, reply.events) := by
    unfold start
    rw [started]
    rfl
  have global := Engine.start_globalTtl started
  have audit := Engine.start_violation? started
  have bounds := (Engine.start_tuning started).1
  rw [config_bounds] at audit bounds
  rw [config_requested] at global
  have counts := widened_contains_iff ttl
  rw [← global] at counts
  refine ⟨_, _, opened, bounds, widened_contains ttl, counts, fun countable => ?_,
    fun uncountable => ?_, countable_iff_of_short ttl⟩
  · rw [audit, if_pos (counts.2 countable)]
  · rw [audit, if_neg (mt counts.1 uncountable)]

/-- One nanosecond, a TTL below the five seconds with half a millisecond, and one of 2^64
milliseconds. -/
theorem start_uncountable :
    [Duration.ofNanos 1, .ofNanos 4001500000, .ofMillis 18446744073709551616].map (fun ttl =>
      (start 0 ttl 0 : Except ConfigProblem (SeenFilter Float × List (Event Float))).map
        fun opened => opened.1.engine.violation?) =
      List.replicate 3 (.ok (some .ttlOutOfBounds)) := by
  decide +kernel

end SeenFilter

end GossipGate
