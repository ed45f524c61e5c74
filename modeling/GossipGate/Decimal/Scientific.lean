import GossipGate.Rounding
import GossipGate.Scalar.Binary64

namespace GossipGate

namespace Decimal

/-- How many decimal digits a number has. -/
def width (n : Nat) : Nat := (Nat.toDigits 10 n).length

/-- Where `whole * 10 ^ power` lies beside `num / den`. -/
def compareGrid (whole : Nat) (power : Int) (num den : Nat) : Ordering :=
  if 0 ≤ power then compare (whole * Nat.pow 10 power.toNat * den) num
  else compare (whole * den) (num * Nat.pow 10 (-power).toNat)

/-- The power of ten of the leading digit of `num / den`, both positive. -/
def leadingPower (num den : Nat) : Int :=
  let guess : Int := (width num : Int) - width den
  if compareGrid 1 guess num den = .gt then guess - 1 else guess

/-- The greatest multiple of `10 ^ power` that is at most `num / den`. -/
def floorOnGrid (num den : Nat) (power : Int) : Nat :=
  if 0 ≤ power then num / (den * Nat.pow 10 power.toNat)
  else num * Nat.pow 10 (-power).toNat / den

/-- The multiple of `10 ^ power` nearest to `num / den`; a tie goes to the even multiple. -/
def nearestOnGrid (num den : Nat) (power : Int) : Nat :=
  if 0 ≤ power then roundHalfEven num (den * Nat.pow 10 power.toNat)
  else roundHalfEven (num * Nat.pow 10 (-power).toNat) den

/-- Digits with a point after the first of them. -/
def pointAfterFirst : List Char → List Char
  | [] => []
  | first :: rest => first :: '.' :: rest

/-- Scientific text of `num / den` with a fixed number of places after the point: the exponent has
no plus sign and no padding. -/
def scientific (places num den : Nat) : String :=
  if num = 0 then
    String.ofList (pointAfterFirst (List.replicate (places + 1) '0') ++ ['e', '0'])
  else
    let power := leadingPower num den
    let rounded := nearestOnGrid num den (power - places)
    let carried := rounded = Nat.pow 10 (places + 1)
    let digits := if carried then Nat.pow 10 places else rounded
    let exponent := if carried then power + 1 else power
    String.ofList (pointAfterFirst (Nat.toDigits 10 digits)) ++ "e" ++ toString exponent

end Decimal

/-- Text of a double: that of its magnitude behind the sign, or a name where it is not finite. -/
def Binary64.text (b : Binary64) (magnitudeText : Rat → String) : String :=
  let sign := if b.negative then "-" else ""
  match b.magnitude? with
  | some q => sign ++ magnitudeText q
  | none => if b.fraction = 0 then sign ++ "inf" else "NaN"

/-- Text of a double with nine places, rounded half to even from its exact value. -/
def measureText (x : Float) : String :=
  (Binary64.ofFloat x).text fun q => Decimal.scientific 9 q.num.toNat q.den

end GossipGate
