import GossipGate.Decimal.Scientific

namespace GossipGate

namespace Decimal

/-- Which of two equally near numbers is written: the upper one, or the one with the even last
digit. -/
inductive Tie where
  | upper | even
  deriving DecidableEq, Repr

/-- The numbers that round to one double: those between two ends over one denominator, the ends
included where the fraction of the double is even. -/
structure RoundingInterval where
  low : Nat
  value : Nat
  high : Nat
  den : Nat
  closed : Bool

/-- The interval of a positive finite double. Below a power of two the neighbour is half as far
away as above it. -/
def RoundingInterval.of (b : Binary64) : RoundingInterval :=
  let mantissa := if b.exponent = 0 then b.fraction else b.fraction + leadingBit
  let power := max b.exponent 1
  let below := if b.fraction = 0 ∧ 1 < b.exponent then 1 else 2
  let step := if 1075 ≤ power then Nat.pow 2 (power - 1075) else 1
  { low := 4 * mantissa * step - below * step
    value := 4 * mantissa * step
    high := 4 * mantissa * step + 2 * step
    den := if 1075 ≤ power then 4 else 4 * Nat.pow 2 (1075 - power)
    closed := b.fraction % 2 = 0 }

/-- Whether `whole * 10 ^ power` rounds to the double. -/
def RoundingInterval.holds (interval : RoundingInterval) (whole : Nat) (power : Int) : Bool :=
  let fromLow := compareGrid whole power interval.low interval.den
  let fromHigh := compareGrid whole power interval.high interval.den
  if interval.closed then fromLow ≠ .lt && fromHigh ≠ .gt
  else fromLow = .gt && fromHigh = .lt

/-- The multiple of `10 ^ power` inside the interval that is nearest to the value. Only the two
multiples beside the value need a look. -/
def RoundingInterval.onGrid? (interval : RoundingInterval) (tie : Tie) (power : Int) :
    Option Nat :=
  let lower := floorOnGrid interval.value interval.den power
  let upper := lower + 1
  let upperIsNear :=
    match compareGrid (lower + upper) power (2 * interval.value) interval.den with
    | .lt => true
    | .eq => tie = .upper || upper % 2 = 0
    | .gt => false
  if interval.holds upper power && (upperIsNear || !interval.holds lower power) then some upper
  else if interval.holds lower power then some lower
  else none

/-- The fewest digits inside the interval with the power of ten of the last of them, trying
`tries` numbers of digits. A first digit that was rounded up to ten is a one further left. -/
def RoundingInterval.fewest (interval : RoundingInterval) (tie : Tie) (power : Int) :
    Nat → Nat × Int
  | 0 => (floorOnGrid interval.value interval.den power, power)
  | tries + 1 =>
    match interval.onGrid? tie power with
    | some digits => if digits = 10 then (1, power + 1) else (digits, power)
    | none => interval.fewest tie (power - 1) tries

/-- Digits times a power of ten, written without an exponent. -/
def positional (digits : Nat) (power : Int) : String :=
  let text := Nat.toDigits 10 digits
  if 0 ≤ power then String.ofList (text ++ List.replicate power.toNat '0')
  else
    let places := (-power).toNat
    let padded := List.replicate (places + 1 - text.length) '0' ++ text
    let whole := padded.take (padded.length - places)
    String.ofList (whole ++ '.' :: padded.drop (padded.length - places))

end Decimal

/-- The fewest digits that read back as a double of some magnitude, with the power of ten of the
last of them. -/
def Binary64.shortest (b : Binary64) (tie : Decimal.Tie) (magnitude : Rat) : Nat × Int :=
  (Decimal.RoundingInterval.of b).fewest tie
    (Decimal.leadingPower magnitude.num.toNat magnitude.den) 17

/-- The shortest text without an exponent that reads back as the same double. -/
def shortestText (x : Float) : String :=
  let b := Binary64.ofFloat x
  b.text fun q =>
    if q = 0 then "0"
    else
      let found := b.shortest .upper q
      Decimal.positional found.1 found.2

end GossipGate
