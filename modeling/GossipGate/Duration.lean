import GossipGate.Fault
import GossipGate.Rounding
import GossipGate.Scalar

namespace GossipGate

/-- A span of time in whole nanoseconds, shorter than 2^64 seconds. -/
structure Duration where
  nanos : Nat
  nanos_lt : nanos < 18446744073709551616000000000
  deriving DecidableEq

namespace Duration

/-- The first number of nanoseconds that is too long. -/
def limit : Nat := 18446744073709551616000000000

@[ext] theorem ext {a b : Duration} (same : a.nanos = b.nanos) : a = b := by
  cases a; cases b; simp_all

instance : LT Duration := ⟨fun a b => a.nanos < b.nanos⟩
instance : LE Duration := ⟨fun a b => a.nanos ≤ b.nanos⟩
instance (a b : Duration) : Decidable (a < b) := inferInstanceAs (Decidable (a.nanos < b.nanos))
instance (a b : Duration) : Decidable (a ≤ b) := inferInstanceAs (Decidable (a.nanos ≤ b.nanos))

theorem le_def {a b : Duration} : a ≤ b ↔ a.nanos ≤ b.nanos := Iff.rfl
theorem lt_def {a b : Duration} : a < b ↔ a.nanos < b.nanos := Iff.rfl

/-- The shorter of two spans. -/
def least (a b : Duration) : Duration := if a ≤ b then a else b

/-- The longer of two spans. -/
def greatest (a b : Duration) : Duration := if a ≤ b then b else a

/-- A number of nanoseconds, cut to the longest span. -/
def ofNanos (n : Nat) : Duration :=
  ⟨min n (18446744073709551616000000000 - 1), by omega⟩

theorem nanos_ofNanos {n : Nat} (short : n < limit) : (ofNanos n).nanos = n := by
  unfold limit at short
  simp only [ofNanos]
  omega

/-- A number of nanoseconds, if that is short enough. -/
def ofNanos? (n : Nat) : Option Duration :=
  if short : n < 18446744073709551616000000000 then some ⟨n, short⟩ else none

theorem ofNanos?_nanos (d : Duration) : ofNanos? d.nanos = some d := dif_pos d.nanos_lt

def zero : Duration := ofNanos 0
def ofMillis (n : Nat) : Duration := ofNanos (n * 1000000)
def ofSeconds (n : Nat) : Duration := ofNanos (n * 1000000000)
def ofMinutes (n : Nat) : Duration := ofSeconds (60 * n)

def isZero (d : Duration) : Bool := d.nanos == 0

/-- Whole seconds. -/
def seconds (d : Duration) : Nat := d.nanos / 1000000000

/-- Nanoseconds beyond the whole seconds. -/
def subsecond (d : Duration) : Nat := d.nanos % 1000000000

/-- Whole milliseconds. -/
def millis (d : Duration) : Nat := d.nanos / 1000000

/-- Whole milliseconds as a 64-bit word; the millisecond clock counts in such words. -/
def millisWord (d : Duration) : Nat := d.millis % UInt64.size

/-- The sum, unless it is too long. -/
def add (a b : Duration) : Except Fault Duration :=
  match ofNanos? (a.nanos + b.nanos) with
  | some d => .ok d
  | none => .error .durationRange

/-- The difference, unless the second is longer. -/
def sub (a b : Duration) : Except Fault Duration :=
  if b ≤ a then .ok ⟨a.nanos - b.nanos, Nat.lt_of_le_of_lt (Nat.sub_le _ _) a.nanos_lt⟩
  else .error .durationRange

variable {α : Type} [Scalar α]

/-- Seconds as a number: the whole seconds plus the rest over 10^9. -/
def toSeconds (d : Duration) : α :=
  Scalar.ofNat d.seconds + Scalar.ofNat d.subsecond / 1000000000.0

/-- The span nearest to a number of seconds, a tie going to the even nanosecond. A number that is
not finite, negative or too large has none. -/
def fromSeconds (x : α) : Except Fault Duration :=
  match Scalar.value? x with
  | none => .error .durationRange
  | some q =>
    if q < 0 then .error .durationRange
    else
      match ofNanos? (roundHalfEven (q.num.toNat * 1000000000) q.den) with
      | some d => .ok d
      | none => .error .durationRange

end Duration

end GossipGate
