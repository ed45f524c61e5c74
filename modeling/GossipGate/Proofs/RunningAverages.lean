import GossipGate.Proofs.MeasuredDuration
import GossipGate.Proofs.Reputation
import GossipGate.Proofs.TrafficNotes

namespace GossipGate

/-- Not below all of some samples and not above all of them, so between the smallest and the
largest one. -/
def SpannedBy {β : Type} [LE β] (x : β) (samples : List β) : Prop :=
  (∃ least ∈ samples, least ≤ x) ∧ ∃ most ∈ samples, x ≤ most

namespace SpannedBy

variable {β : Type} [LinearOrder β] {x y sample : β} {samples : List β}

theorem of_mem (member : x ∈ samples) : SpannedBy x samples :=
  ⟨⟨x, member, le_rfl⟩, x, member, le_rfl⟩

/-- What lies between a spanned value and one more sample is spanned with that. -/
theorem cons (spanned : SpannedBy x samples) (least : min x sample ≤ y) (most : y ≤ max x sample) :
    SpannedBy y (sample :: samples) := by
  obtain ⟨⟨low, lowest, below⟩, high, highest, above⟩ := spanned
  constructor
  · rcases min_le_iff.1 least with old | new
    · exact ⟨low, List.mem_cons_of_mem _ lowest, below.trans old⟩
    · exact ⟨sample, List.mem_cons_self, new⟩
  · rcases le_max_iff.1 most with old | new
    · exact ⟨high, List.mem_cons_of_mem _ highest, old.trans above⟩
    · exact ⟨sample, List.mem_cons_self, new⟩

end SpannedBy

/-! ### Exact averages -/

section Exact

variable (exp : Rat → Rat) {rate : Rat}

/-- A mean lies between what it is a mean of. -/
theorem blend_between (positive : 0 ≤ rate) (le_one : rate ≤ 1) (average sample : Rat) :
    min average sample ≤ @Scalar.blend Rat (exactScalar exp) average sample rate ∧
      @Scalar.blend Rat (exactScalar exp) average sample rate ≤ max average sample := by
  have weighted : @Scalar.blend Rat (exactScalar exp) average sample rate =
      average * (1 - rate) + sample * rate := by
    show average * (1.0 - rate) + sample * rate = _
    norm_num
  have rest : 0 ≤ 1 - rate := by linarith
  rw [weighted]
  constructor
  · have first := mul_le_mul_of_nonneg_right (min_le_left average sample) rest
    have second := mul_le_mul_of_nonneg_right (min_le_right average sample) positive
    linarith
  · have first := mul_le_mul_of_nonneg_right (le_max_left average sample) rest
    have second := mul_le_mul_of_nonneg_right (le_max_right average sample) positive
    linarith

theorem Duration.toSeconds_exact (d : Duration) :
    @Duration.toSeconds Rat (exactScalar exp) d = d.nanos / 1000000000 := by
  rw [← d.seconds_add_subsecond]
  show (d.seconds : Rat) + d.subsecond / 1000000000.0 = _
  norm_num

/-- The mean of two spans is measured, and lies between them to the nanosecond. -/
theorem Duration.fromSeconds_blend (positive : 0 ≤ rate) (le_one : rate ≤ 1) (a b : Duration) :
    ∃ d, @Duration.fromSeconds Rat (exactScalar exp) (@Scalar.blend Rat (exactScalar exp)
        (@Duration.toSeconds Rat (exactScalar exp) a)
        (@Duration.toSeconds Rat (exactScalar exp) b) rate) = .ok d ∧
      min a.nanos b.nanos ≤ d.nanos ∧ d.nanos ≤ max a.nanos b.nanos := by
  let _ := exactScalar exp
  rw [toSeconds_exact, toSeconds_exact]
  obtain ⟨least, most⟩ := blend_between exp positive le_one
    ((a.nanos : Rat) / 1000000000) (b.nanos / 1000000000)
  generalize Scalar.blend ((a.nanos : Rat) / 1000000000) (b.nanos / 1000000000) rate = q at *
  have low : ((min a.nanos b.nanos : Nat) : Rat) ≤ q * 1000000000 := by
    rw [Nat.cast_min, min_le_iff]
    exact (min_le_iff.1 least).imp (div_le_iff₀ (by norm_num)).1 (div_le_iff₀ (by norm_num)).1
  have high : q * 1000000000 ≤ (max a.nanos b.nanos : Nat) := by
    rw [Nat.cast_max, le_max_iff]
    exact (le_max_iff.1 most).imp (le_div_iff₀ (by norm_num)).1 (le_div_iff₀ (by norm_num)).1
  have nonneg : 0 ≤ q := by
    have scaled : (0 : Rat) ≤ q * 1000000000 := (Nat.cast_nonneg _).trans low
    linarith
  have above : nearestNanos q ≤ max a.nanos b.nanos := nearestNanos_le nonneg high
  have short : nearestNanos q < limit := above.trans_lt (max_lt a.nanos_lt b.nanos_lt)
  obtain ⟨d, measured, nanos⟩ := fromSeconds_ok (x := q) rfl nonneg short
  exact ⟨d, measured, nanos ▸ le_nearestNanos nonneg low, nanos ▸ above⟩

/-- A span above zero is a nanosecond long at least, so it divides, and into no more than 10^9. -/
theorem Duration.reciprocal_bounds {d : Duration} (nonzero : d.isZero = false) :
    0 < @Duration.toSeconds Rat (exactScalar exp) d ∧
      1 / @Duration.toSeconds Rat (exactScalar exp) d ≤ 1000000000 := by
  have some : d.nanos ≠ 0 := fun none => by simp [isZero_iff.2 none] at nonzero
  have one : (1 : Rat) ≤ d.nanos := by exact_mod_cast Nat.one_le_iff_ne_zero.2 some
  have above : (0 : Rat) < d.nanos / 1000000000 := by positivity
  rw [toSeconds_exact]
  refine ⟨above, ?_⟩
  rw [div_le_iff₀ above]
  linarith

end Exact

namespace Traffic

/-! ### What notes tell -/

/-- When the latest message came. -/
def lastArrival : List Note → Option Nat
  | [] => none
  | .arrival now :: _ => some now
  | .size _ :: earlier => lastArrival earlier

/-- The gap that a note adds to some earlier ones: an arrival adds that to the arrival before. -/
def gap? (earlier : List Note) : Note → Option Duration
  | .arrival now => (lastArrival earlier).map fun previous => .ofMillis (now - previous)
  | .size _ => none

/-- The gaps that some later notes add to some earlier ones. -/
def gapsSince (earlier : List Note) : List Note → List Duration
  | [] => []
  | note :: later => (gap? (later ++ earlier) note).toList ++ gapsSince earlier later

/-- The size that a note tells of, where that is not zero. -/
def Note.size? : Note → Option Nat
  | .arrival _ => none
  | .size bytes => if bytes = 0 then none else some bytes

/-- The sizes that some notes tell of, zero apart. -/
def sizes (notes : List Note) : List Nat := notes.filterMap Note.size?

section Averaged

variable {α : Type} [Scalar α]

/-- The average gap of a new record after some notes, the latest first. -/
def averageAfter (rate : α) (notes : List Note) : Except Fault Duration :=
  ((fresh .zero).after rate notes).map averageGap

/-- The latest average gap above zero that a new record had on its way through some notes. -/
def latestAverage? (rate : α) (notes : List Note) : Option Duration :=
  (notes.tails.filterMap fun earlier => (averageAfter rate earlier).toOption).find?
    fun average => !average.isZero

variable {rate : α} {note : Note} {notes earlier : List Note} {average : Duration}

theorem latestAverage?_of_positive (now : averageAfter rate notes = .ok average)
    (positive : average.isZero = false) : latestAverage? rate notes = some average := by
  unfold latestAverage?
  cases notes <;> simp [List.tails, now, Except.toOption, positive]

theorem latestAverage?_of_zero (now : averageAfter rate (note :: earlier) = .ok average)
    (zero : average.isZero = true) :
    latestAverage? rate (note :: earlier) = latestAverage? rate earlier := by
  unfold latestAverage?
  simp [List.tails, now, Except.toOption, zero]

end Averaged

/-! ### Averages of what was folded in -/

/-- The average gap of a record is between some gaps, or zero without any. -/
def GapWithin {α : Type} (t : Traffic α) (gaps : List Duration) : Prop :=
  gaps = [] ∧ t.averageGap = .zero ∨ SpannedBy t.averageGap.nanos (gaps.map Duration.nanos)

/-- The average size of a record is between some sizes, or zero without any. -/
def SizeWithin (t : Traffic Rat) (sizes : List Nat) : Prop :=
  sizes = [] ∧ t.averageSize = 0 ∨
    SpannedBy t.averageSize (sizes.map fun bytes : Nat => (bytes : Rat))

/-- The reciprocal of the latest average gap above zero, if there was one. -/
def latestVelocity (exp : Rat → Rat) (rate : Rat) (notes : List Note) : Rat :=
  (@latestAverage? Rat (exactScalar exp) rate notes).elim 0 fun average =>
    1 / @Duration.toSeconds Rat (exactScalar exp) average

/-! ### One note -/

variable {exp : Rat → Rat} {rate : Rat} {t last : Traffic Rat} {note : Note}
  {notes earlier later : List Note}

/-- What a note makes of the averages of a record after some earlier notes. -/
structure Turns (exp : Rat → Rat) (rate : Rat) (earlier : List Note) (note : Note)
    (t last : Traffic Rat) : Prop where
  lastSeen : last.lastSeen = lastArrival (note :: earlier)
  gap : gap? earlier note = none ∧ last.averageGap = t.averageGap ∧ last.velocity = t.velocity ∨
    ∃ gap, gap? earlier note = some gap ∧ (t.averageGap.isZero = true → last.averageGap = gap) ∧
      min t.averageGap.nanos gap.nanos ≤ last.averageGap.nanos ∧
      last.averageGap.nanos ≤ max t.averageGap.nanos gap.nanos ∧
      last.velocity = if last.averageGap.isZero then t.velocity
        else 1 / @Duration.toSeconds Rat (exactScalar exp) last.averageGap
  size : note.size? = none ∧ last.averageSize = t.averageSize ∨
    ∃ bytes, note.size? = some bytes ∧ (t.averageSize = 0 → last.averageSize = bytes) ∧
      min t.averageSize bytes ≤ last.averageSize ∧ last.averageSize ≤ max t.averageSize bytes

theorem nextGap_exact (exp : Rat → Rat) (positive : 0 ≤ rate) (le_one : rate ≤ 1) (t : Traffic Rat)
    (gap : Duration) : ∃ average, @nextGap Rat (exactScalar exp) t gap rate = .ok average ∧
      (t.averageGap.isZero = true → average = gap) ∧
      min t.averageGap.nanos gap.nanos ≤ average.nanos ∧
      average.nanos ≤ max t.averageGap.nanos gap.nanos := by
  unfold nextGap
  split
  · exact ⟨gap, rfl, fun _ => rfl, min_le_right _ _, le_max_right _ _⟩
  · rename_i nonzero
    obtain ⟨average, measured, between⟩ :=
      Duration.fromSeconds_blend exp positive le_one t.averageGap gap
    exact ⟨average, measured, fun zero => absurd zero nonzero, between⟩

theorem recordSize_turns (positive : 0 ≤ rate) (le_one : rate ≤ 1)
    (seen : t.lastSeen = lastArrival earlier) (bytes : Nat) :
    Turns exp rate earlier (.size bytes) t (@recordSize Rat (exactScalar exp) t bytes rate) := by
  let _ := exactScalar exp
  obtain ⟨averageSize, same⟩ := t.recordSize_eq bytes rate
  refine ⟨by rw [same]; exact seen, Or.inl ⟨rfl, by rw [same], by rw [same]⟩, ?_⟩
  have zero : (0.0 : Rat) = 0 := by norm_num
  by_cases given : bytes = 0
  · exact Or.inl ⟨if_pos given, by rw [recordSize, if_pos given]⟩
  · refine Or.inr ⟨bytes, if_neg given, ?_⟩
    rw [recordSize, if_neg given]
    dsimp only
    rw [zero]
    split
    · rename_i fresh
      have none : t.averageSize = 0 := beq_iff_eq.1 fresh
      rw [none]
      exact ⟨fun _ => rfl, min_le_right _ _, le_max_right _ _⟩
    · rename_i known
      refine ⟨fun none => absurd (beq_iff_eq.2 none) known, ?_⟩
      exact blend_between exp positive le_one t.averageSize bytes

theorem told_turns (exp : Rat → Rat) (positive : 0 ≤ rate) (le_one : rate ≤ 1)
    (seen : t.lastSeen = lastArrival earlier) (note : Note) :
    ∃ last, @told Rat (exactScalar exp) t rate note = .ok last ∧
      Turns exp rate earlier note t last := by
  let _ := exactScalar exp
  cases note with
  | size bytes => exact ⟨_, rfl, recordSize_turns positive le_one seen bytes⟩
  | arrival now =>
    unfold told arrive
    cases before : t.lastSeen with
    | none =>
      have first : gap? earlier (.arrival now) = none := by
        rw [gap?, ← seen, before, Option.map_none]
      exact ⟨_, rfl, rfl, Or.inl ⟨first, rfl, rfl⟩, Or.inl ⟨rfl, rfl⟩⟩
    | some previous =>
      have gap : gap? earlier (.arrival now) = some (.ofMillis (now - previous)) := by
        rw [gap?, ← seen, before, Option.map_some]
      obtain ⟨average, next, restarts, least, most⟩ :=
        nextGap_exact exp positive le_one t (.ofMillis (now - previous))
      have one : (1.0 : Rat) = 1 := by norm_num
      simp only [next, bind, Except.bind, one]
      exact ⟨_, rfl, rfl, Or.inr ⟨_, gap, restarts, least, most, rfl⟩, Or.inl ⟨rfl, rfl⟩⟩

/-! ### Some notes -/

/-- What the averages of a record tell of the notes that a new one was told, the latest first. Since
the average gap was zero it stays between the smallest and the largest gap that was folded in. The
velocity is the reciprocal of the latest average gap above zero, if there was one. The average size
is zero up to the first size above zero and lies between the smallest and the largest of these
from then on. -/
structure Averages (exp : Rat → Rat) (rate : Rat) (notes : List Note) (t : Traffic Rat) :
    Prop where
  average : @averageAfter Rat (exactScalar exp) rate notes = .ok t.averageGap
  convex : ∀ later earlier, notes = later ++ earlier →
    @averageAfter Rat (exactScalar exp) rate earlier = .ok .zero →
      t.GapWithin (gapsSince earlier later)
  nonneg : 0 ≤ @Duration.toSeconds Rat (exactScalar exp) t.averageGap
  velocity : t.velocity = latestVelocity exp rate notes
  divides : ∀ average, @latestAverage? Rat (exactScalar exp) rate notes = some average →
    0 < @Duration.toSeconds Rat (exactScalar exp) average
  bounded : 0 ≤ t.velocity ∧ t.velocity ≤ 1000000000
  size : t.SizeWithin (sizes notes)

theorem latestAverage?_nonzero {α : Type} [Scalar α] {rate : α} {average : Duration}
    (found : latestAverage? rate notes = some average) : average.isZero = false := by
  have nonzero := List.find?_some found
  simpa using nonzero

/-- One more gap keeps the average gap between those since it was zero. -/
theorem Turns.convex (turns : Turns exp rate (later ++ earlier) note t last)
    (before : t.GapWithin (gapsSince earlier later)) :
    last.GapWithin (gapsSince earlier (note :: later)) := by
  unfold GapWithin at *
  rw [gapsSince]
  rcases turns.gap with ⟨none, average, _⟩ | ⟨gap, some, restarts, least, most, _⟩
  · rw [none, average]
    exact before
  · rw [some, Option.toList_some, List.singleton_append, List.map_cons]
    right
    by_cases zero : t.averageGap.isZero = true
    · rw [restarts zero]
      exact .of_mem List.mem_cons_self
    · rcases before with ⟨_, empty⟩ | spanned
      · exact absurd (Duration.isZero_iff.2 (congrArg Duration.nanos empty)) zero
      · exact spanned.cons least most

/-- One more size keeps the average size between those that were given. -/
theorem Turns.sized (turns : Turns exp rate earlier note t last)
    (before : t.SizeWithin (sizes earlier)) : last.SizeWithin (sizes (note :: earlier)) := by
  unfold SizeWithin sizes at *
  rcases turns.size with ⟨none, same⟩ | ⟨bytes, some, first, least, most⟩
  · rw [List.filterMap_cons_none none, same]
    exact before
  · rw [List.filterMap_cons_some some, List.map_cons]
    right
    rcases before with ⟨_, empty⟩ | spanned
    · rw [first empty]
      exact .of_mem List.mem_cons_self
    · exact spanned.cons least most

/-- The velocity follows the latest average gap above zero. -/
theorem Turns.velocity (turns : Turns exp rate earlier note t last)
    (average : @averageAfter Rat (exactScalar exp) rate earlier = .ok t.averageGap)
    (now : @averageAfter Rat (exactScalar exp) rate (note :: earlier) = .ok last.averageGap)
    (before : t.velocity = latestVelocity exp rate earlier) :
    last.velocity = latestVelocity exp rate (note :: earlier) := by
  let _ := exactScalar exp
  unfold latestVelocity at *
  cases zero : last.averageGap.isZero with
  | true =>
    rw [latestAverage?_of_zero now zero, ← before]
    rcases turns.gap with ⟨_, _, same⟩ | ⟨_, _, _, _, _, kept⟩
    · exact same
    · rw [kept, if_pos zero]
  | false =>
    rw [latestAverage?_of_positive now zero, Option.elim_some]
    rcases turns.gap with ⟨_, same, kept⟩ | ⟨_, _, _, _, _, anew⟩
    · rw [same] at zero ⊢
      rw [kept, before, latestAverage?_of_positive average zero, Option.elim_some]
    · rw [anew, zero, if_neg Bool.false_ne_true]

/-- That the velocity is bounded is due to which averages it is computed from. -/
theorem Averages.of_convex
    (average : @averageAfter Rat (exactScalar exp) rate notes = .ok t.averageGap)
    (convex : ∀ later earlier, notes = later ++ earlier →
      @averageAfter Rat (exactScalar exp) rate earlier = .ok .zero →
        t.GapWithin (gapsSince earlier later))
    (velocity : t.velocity = latestVelocity exp rate notes)
    (size : t.SizeWithin (sizes notes)) : Averages exp rate notes t := by
  let _ := exactScalar exp
  refine ⟨average, convex, ?_, velocity, ?_, ?_, size⟩
  · rw [Duration.toSeconds_exact]
    positivity
  · intro positive found
    exact (Duration.reciprocal_bounds exp (latestAverage?_nonzero found)).1
  · rw [velocity, latestVelocity]
    cases found : latestAverage? rate notes with
    | none => exact ⟨le_rfl, by norm_num⟩
    | some positive =>
      obtain ⟨above, most⟩ := Duration.reciprocal_bounds exp (latestAverage?_nonzero found)
      exact ⟨(one_div_pos.2 above).le, most⟩

theorem Averages.congr {other : Traffic Rat} (averages : Averages exp rate notes t)
    (same : other.SameAverages t) : Averages exp rate notes other := by
  obtain ⟨average, convex, nonneg, velocity, divides, bounded, size⟩ := averages
  unfold GapWithin at convex
  unfold SizeWithin at size
  rw [← same.gap] at average convex nonneg
  rw [← same.velocity] at velocity bounded
  rw [← same.size] at size
  exact ⟨average, convex, nonneg, velocity, divides, bounded, size⟩

/-- A new record is told any notes without a fault. -/
theorem exists_averages (exp : Rat → Rat) (positive : 0 < rate) (le_one : rate ≤ 1)
    (notes : List Note) :
    ∃ t, @after Rat (exactScalar exp) (@fresh Rat (exactScalar exp) .zero) rate notes = .ok t ∧
      t.lastSeen = lastArrival notes ∧ Averages exp rate notes t := by
  let _ := exactScalar exp
  have zero : (0.0 : Rat) = 0 := by norm_num
  induction notes with
  | nil =>
    refine ⟨_, rfl, rfl, .of_convex rfl ?_ zero (Or.inl ⟨rfl, zero⟩)⟩
    intro later earlier split _
    obtain ⟨rfl, rfl⟩ := List.append_eq_nil_iff.1 split.symm
    exact Or.inl ⟨rfl, rfl⟩
  | cons note earlier ih =>
    obtain ⟨t, done, seen, averages⟩ := ih
    obtain ⟨last, told, turns⟩ := told_turns exp positive.le le_one seen note
    have now := (after_cons done note).trans told
    have average : averageAfter rate (note :: earlier) = .ok last.averageGap := by
      rw [averageAfter, now]
      rfl
    refine ⟨last, now, turns.lastSeen, .of_convex average ?_
      (turns.velocity averages.average average averages.velocity) (turns.sized averages.size)⟩
    intro newer older split empty
    cases newer with
    | nil =>
      -- The moment without an average is the present one.
      rw [List.nil_append] at split
      rw [← split, average] at empty
      exact Or.inl ⟨rfl, Except.ok.inj empty⟩
    | cons first rest =>
      obtain ⟨rfl, rfl⟩ := List.cons_eq_cons.1 split
      exact turns.convex (averages.convex rest older rfl empty)

end Traffic

/-- The running averages are convex. However fast they learn and whatever arrivals and sizes they
are told of, at whatever readings of the clock, nothing faults, and the averages keep between what
was folded in since they started. So do those of every type in every gate, by what its calls
were. -/
theorem running_averages_convex (exp : Rat → Rat) :
    (∀ rate ttl notes, 0 < rate → rate ≤ 1 →
      ∃ t, @Traffic.after Rat (exactScalar exp) (@Traffic.fresh Rat (exactScalar exp) ttl) rate
        notes = .ok t ∧ Traffic.Averages exp rate notes t) ∧
      ∀ c opened past e, @Run Rat (exactScalar exp) c opened past e →
        ∀ messageType t, e.traffic.get? messageType = some t →
          Traffic.Averages exp c.learningRate (heard messageType past) t := by
  let _ := exactScalar exp
  constructor
  · intro rate ttl notes positive le_one
    obtain ⟨t, done, _, averages⟩ := Traffic.exists_averages exp positive le_one notes
    obtain ⟨last, told, same⟩ := (Traffic.sameAverages_fresh .zero ttl).after done
    exact ⟨last, told, averages.congr same.symm⟩
  · intro c opened past e run messageType t stored
    obtain ⟨known, told, same⟩ := run.hears messageType
    obtain ⟨_, done, _, averages⟩ := Traffic.exists_averages exp run.learns.1 run.learns.2
      (heard messageType past)
    cases Except.ok.inj (done.symm.trans told)
    have record : e.trafficRecord messageType = t := by
      rw [Engine.trafficRecord, stored, Option.getD_some]
    exact averages.congr (record ▸ same)

/-- A type that is heard of at readings of the clock that go back, with sizes and without. -/
def backwardNotes : List Traffic.Note :=
  [.arrival 2500, .arrival 500, .size 0, .size 300, .arrival 1000, .arrival 0, .size 100]

/-- Gaps of a second, none at all and two seconds average out at five quarters of a second. -/
theorem running_averages_convex_backward :
    (∃ t, @Traffic.after Rat decayingScalar (@Traffic.fresh Rat decayingScalar .zero) (1 / 2)
        backwardNotes = .ok t ∧ Traffic.gapsSince [] backwardNotes =
          [.ofMillis 2000, .ofMillis 0, .ofMillis 1000] ∧
        t.averageGap = .ofMillis 1250 ∧ t.velocity = 4 / 5 ∧ t.averageSize = 200 ∧
        Traffic.Averages (fun q => 1 / (1 - q)) (1 / 2) backwardNotes t) ∧
      ∃ (past : List (Step Rat)) (e : Engine Rat) (t : Traffic Rat),
        @Run Rat decayingScalar (@forgetfulConfig Rat decayingScalar) 0 past e ∧
          e.traffic.get? "t" = some t ∧ heard "t" past =
            [.arrival 400, .size 0, .arrival 1000, .size 0, .arrival 0, .size 0] ∧
          Traffic.Averages (fun q => 1 / (1 - q)) 1 (heard "t" past) t := by
  let _ := decayingScalar
  have convex := running_averages_convex fun q => 1 / (1 - q)
  constructor
  · obtain ⟨t, done, averages⟩ := convex.1 (1 / 2) .zero backwardNotes (by norm_num) (by norm_num)
    have computed : ((Traffic.fresh .zero).after (1 / 2 : Rat) backwardNotes).toOption.any
        (fun t => decide (t.averageGap = .ofMillis 1250 ∧ t.velocity = 4 / 5 ∧
          t.averageSize = 200)) = true := by
      decide +kernel
    rw [done] at computed
    obtain ⟨gap, velocity, size⟩ := of_decide_eq_true computed
    exact ⟨t, done, by decide, gap, velocity, size, averages⟩
  · have usable : (forgetfulConfig Rat).problem? = none := by decide +kernel
    have traced : ((Engine.assemble (forgetfulConfig Rat)
        (Config.minTtl_le_maxTtl_ofTier (α := Rat) .business) 0).engine.trace
          [(0, .message floodMessage), (1000, .message floodMessage),
            (400, .message floodMessage)]).toOption.any (fun past => decide (heard "t" past =
              [.arrival 400, .size 0, .arrival 1000, .size 0, .arrival 0, .size 0]) &&
                past.head?.any fun step => step.reply.engine.traffic.contains "t") = true := by
      decide +kernel
    obtain ⟨past, e, run, _, facts⟩ := Run.of_trace usable traced
    obtain ⟨told, known⟩ := Bool.and_eq_true_iff.1 facts
    cases run with
    | start => cases known
    | call before reordered performed =>
      obtain ⟨t, stored⟩ := Option.isSome_iff_exists.1 known
      have run := before.call reordered performed
      have averages := convex.2 _ 0 _ _ run "t" t stored
      have rate : (forgetfulConfig Rat).learningRate = 1 := by
        show (1.0 : Rat) = 1
        norm_num
      rw [rate] at averages
      exact ⟨_, _, t, run, stored, of_decide_eq_true told, averages⟩

end GossipGate
