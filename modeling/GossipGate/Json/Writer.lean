import GossipGate.Decimal.Shortest
import GossipGate.Json

namespace GossipGate

namespace Json

def hexPair (n : Nat) : String :=
  String.ofList [Nat.digitChar (n / 16), Nat.digitChar (n % 16)]

/-- A character inside quotes. Quote, backslash and control characters are escaped, five of them
by a letter. -/
def escapedText (c : Char) : String :=
  if c = '\x22' then "\\\""
  else if c = '\x5c' then "\\\\"
  else if c = '\x08' then "\\b"
  else if c = '\x0c' then "\\f"
  else if c = '\n' then "\\n"
  else if c = '\r' then "\\r"
  else if c = '\t' then "\\t"
  else if c.val < 0x20 then "\\u00" ++ hexPair c.toNat
  else c.toString

def quoted (s : String) : String :=
  s.toList.foldl (fun written c => written ++ escapedText c) "\"" ++ "\""

/-- Digits times a power of ten. From `10 ^ 16` up and below `10 ^ -5` they are written with an
exponent, else with a point, so that a double stays one when it is read. -/
def decimalText (digits : Nat) (power : Int) : String :=
  let text := Nat.toDigits 10 digits
  let leading := power + text.length - 1
  if leading < -5 ∨ 16 ≤ leading then
    String.ofList (if text.length = 1 then text else Decimal.pointAfterFirst text) ++ "e" ++
      toString leading
  else if 0 ≤ power then Decimal.positional digits power ++ ".0"
  else Decimal.positional digits power

/-- The shortest text that rounds to a finite double, the one with the even last digit of two that
are equally near. -/
def floatText (x : Float) : String :=
  let b := Binary64.ofFloat x
  b.text fun q =>
    if q = 0 then "0.0"
    else
      let found := b.shortest .even q
      decimalText found.1 found.2

def numberText : JsonNumber → String
  | .int value => toString value
  | .float value => if value.isFinite then floatText value else "null"

mutual

/-- Writes a value without blanks behind the text already written. -/
def write (written : String) : Json → String
  | null => written ++ "null"
  | bool value => written ++ (if value then "true" else "false")
  | number value => written ++ numberText value
  | text value => written ++ quoted value
  | array items => writeItems (written ++ "[") items ++ "]"
  | object members => writeMembers (written ++ "\x7b") members ++ "\x7d"
  | flawed _ => written ++ "null"

def writeItems (written : String) : List Json → String
  | [] => written
  | [item] => write written item
  | item :: rest => writeItems (write written item ++ ",") rest

def writeMembers (written : String) : List (String × Json) → String
  | [] => written
  | [(name, value)] => write (written ++ quoted name ++ ":") value
  | (name, value) :: rest => writeMembers (write (written ++ quoted name ++ ":") value ++ ",") rest

end

/-- The compact text of a value. -/
def toText (value : Json) : String := write "" value

end Json

end GossipGate
