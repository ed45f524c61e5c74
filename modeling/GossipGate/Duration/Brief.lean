import GossipGate.Duration

namespace GossipGate

namespace Duration

/-- A whole number and a fraction of `places` digits without its trailing zeros. -/
def trimmedDecimal (whole fraction places : Nat) : String :=
  let digits := Nat.toDigits 10 fraction
  let padded := List.replicate (places - digits.length) '0' ++ digits
  let kept := (padded.reverse.dropWhile (· == '0')).reverse
  if fraction = 0 then toString whole
  else toString whole ++ "." ++ String.ofList kept

/-- The brief form: the largest of seconds, milliseconds, microseconds and nanoseconds whose whole
part is not zero, with a decimal fraction. -/
def brief (d : Duration) : String :=
  let n := d.nanos
  if 1000000000 ≤ n then trimmedDecimal (n / 1000000000) (n % 1000000000) 9 ++ "s"
  else if 1000000 ≤ n then trimmedDecimal (n / 1000000) (n % 1000000) 6 ++ "ms"
  else if 1000 ≤ n then trimmedDecimal (n / 1000) (n % 1000) 3 ++ "µs"
  else toString n ++ "ns"

end Duration

end GossipGate
