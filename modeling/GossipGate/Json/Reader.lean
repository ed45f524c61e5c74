import GossipGate.Fault
import GossipGate.Json
import GossipGate.Text.Numeral

namespace GossipGate

namespace Json

def isSpace (c : Char) : Bool := c == ' ' || c == '\t' || c == '\n' || c == '\r'

def skipSpace (s : List Char) : List Char := s.dropWhile isSpace

def hexValue? (c : Char) : Option Nat :=
  if isDigit c then digit? c
  else if 'a' ≤ c ∧ c ≤ 'f' then some (c.toNat - 'a'.toNat + 10)
  else if 'A' ≤ c ∧ c ≤ 'F' then some (c.toNat - 'A'.toNat + 10)
  else none

/-- One step of a text: a character, or a 16-bit unit written as four hexadecimal digits. -/
inductive TextPiece where
  | char (c : Char)
  | unit (n : Nat)

def escaped? : Char → Option Char
  | '\x22' => some '\x22'
  | '\x5c' => some '\x5c'
  | '/' => some '/'
  | 'b' => some '\x08'
  | 'f' => some '\x0c'
  | 'n' => some '\n'
  | 'r' => some '\r'
  | 't' => some '\t'
  | _ => none

/-- Reads a text after its opening quote. `read` holds the pieces so far, the latest first. -/
def readPieces? (read : List TextPiece) : List Char → Option (List TextPiece × List Char)
  | [] => none
  | '\x22' :: rest => some (read.reverse, rest)
  | '\x5c' :: 'u' :: a :: b :: c :: d :: rest => do
    let high := (← hexValue? a) * 16 + (← hexValue? b)
    let low := (← hexValue? c) * 16 + (← hexValue? d)
    readPieces? (.unit (high * 256 + low) :: read) rest
  | '\x5c' :: c :: rest => do readPieces? (.char (← escaped? c) :: read) rest
  | c :: rest => if c.val < 0x20 then none else readPieces? (.char c :: read) rest

/-- Joins pieces to a text. A high surrogate needs a low one behind it, and a low one a high one
before it. -/
def joinPieces? (joined : List Char) : List TextPiece → Option (List Char)
  | [] => some joined.reverse
  | .char c :: rest => joinPieces? (c :: joined) rest
  | .unit high :: .unit low :: rest =>
    if 0xD800 ≤ high ∧ high < 0xDC00 then
      if 0xDC00 ≤ low ∧ low < 0xE000 then
        joinPieces? (Char.ofNat (0x10000 + (high - 0xD800) * 0x400 + (low - 0xDC00)) :: joined) rest
      else none
    else if 0xDC00 ≤ high ∧ high < 0xE000 then none
    else joinPieces? (Char.ofNat high :: joined) (.unit low :: rest)
  | .unit n :: rest =>
    if 0xD800 ≤ n ∧ n < 0xE000 then none else joinPieces? (Char.ofNat n :: joined) rest

/-- The value of a text token. -/
def textOfPieces (pieces : List TextPiece) : Json :=
  match joinPieces? [] pieces with
  | some chars => text (String.ofList chars)
  | none => flawed .token

/-- Continues a number with digits as long as it fits a 64-bit word. The second part counts the
digits left over. -/
def continueWord (value : Nat) : List Char → Nat × Nat
  | [] => (value, 0)
  | c :: rest =>
    let longer := value * 10 + (digit? c).getD 0
    if longer < UInt64.size then continueWord longer rest else (value, rest.length + 1)

/-- The leading digits of a decimal number as a 64-bit word, with the power of ten that goes with
it. The digits after them are not looked at. -/
def significand (whole fraction : List Char) : Nat × Int :=
  let head := continueWord 0 whole
  let both := continueWord head.1 fraction
  (both.1, (head.2 : Int) - (fraction.length - both.2 : Nat))

def tenTo (power : Nat) : Float := Float.ofScientific 1 false power

/-- The double of `digits * 10 ^ power`, none where that is too large. The digits become a double
before they are scaled, so the result can miss the nearest double by a unit in the last place. -/
def scaled? (digits : Nat) (power : Int) : Option Float :=
  let start := Float.ofNat digits
  if digits = 0 then some 0.0
  else if 308 < power then none
  else if 0 ≤ power then
    let value := start * tenTo power.toNat
    if value.isFinite then some value else none
  else if -308 ≤ power then some (start / tenTo (-power).toNat)
  else if -616 ≤ power then some (start / tenTo 308 / tenTo (-power - 308).toNat)
  else some 0.0

/-- The value of a number token. Whole numbers of the signed or unsigned 64-bit range are exact;
a negative zero is a double. -/
def numberOfParts (negative : Bool) (whole fraction : List Char) (exponent? : Option Int) : Json :=
  let value := decimalValue whole
  let isWhole := fraction.isEmpty && exponent?.isNone
  if isWhole && !negative && value < UInt64.size then number (.int value)
  else if isWhole && negative && 0 < value && value ≤ 9223372036854775808 then
    number (.int (-value))
  else
    let parts := significand whole fraction
    match scaled? parts.1 (parts.2 + exponent?.getD 0) with
    | some x => number (.float (if negative then -x else x))
    | none => flawed .token

/-- Reads at least one digit. -/
def readDigits? (s : List Char) : Option (List Char × List Char) :=
  let digits := s.takeWhile isDigit
  if digits.isEmpty then none else some (digits, s.dropWhile isDigit)

def readWhole? : List Char → Option (List Char × List Char)
  | '0' :: rest =>
    match rest with
    | c :: _ => if isDigit c then none else some (['0'], rest)
    | [] => some (['0'], rest)
  | s => readDigits? s

def readFraction? : List Char → Option (List Char × List Char)
  | '.' :: rest => readDigits? rest
  | s => some ([], s)

def readSignedExponent? : List Char → Option (Int × List Char)
  | '-' :: rest => (readDigits? rest).map fun p => (-(decimalValue p.1 : Int), p.2)
  | '+' :: rest => (readDigits? rest).map fun p => ((decimalValue p.1 : Int), p.2)
  | s => (readDigits? s).map fun p => ((decimalValue p.1 : Int), p.2)

def readExponent? : List Char → Option (Option Int × List Char)
  | 'e' :: rest => (readSignedExponent? rest).map fun p => (some p.1, p.2)
  | 'E' :: rest => (readSignedExponent? rest).map fun p => (some p.1, p.2)
  | s => some (none, s)

def readUnsigned? (negative : Bool) (s : List Char) : Option (Json × List Char) := do
  let (whole, rest) ← readWhole? s
  let (fraction, rest) ← readFraction? rest
  let (exponent?, rest) ← readExponent? rest
  some (numberOfParts negative whole fraction exponent?, rest)

def readNumber? : List Char → Option (Json × List Char)
  | '-' :: rest => readUnsigned? true rest
  | s => readUnsigned? false s

/-- Reads the name of a member with its colon. The name is none where its token has no value. -/
def readName? (s : List Char) : Option (Option String × List Char) :=
  match skipSpace s with
  | '\x22' :: rest => do
    let (pieces, rest) ← readPieces? [] rest
    match skipSpace rest with
    | ':' :: rest => some ((joinPieces? [] pieces).map String.ofList, rest)
    | _ => none
  | _ => none

/-- A member with its name. Without one there is the flaw in the place of its value, unless the
text breaks off inside that value. -/
def member (name : Option String) (value : Json) (brokenOff : Bool) : String × Json :=
  match name with
  | some name => (name, value)
  | none => ("", flawed (if brokenOff then .ending else .name))

/-- A token with the text behind it; there is none where the token is not well formed. -/
def orEnding : Option (Json × List Char) → Json × Option (List Char)
  | some (value, rest) => (value, some rest)
  | none => (flawed .ending, none)

mutual

/-- Reads one value with the text behind it. Where the text stops being JSON, the value goes up to
there and nothing is behind it. `steps` bounds the values and containers that are entered. -/
def readValue : Nat → List Char → Json × Option (List Char)
  | 0, _ => (flawed .ending, none)
  | steps + 1, s =>
    match skipSpace s with
    | 'n' :: 'u' :: 'l' :: 'l' :: rest => (null, some rest)
    | 't' :: 'r' :: 'u' :: 'e' :: rest => (bool true, some rest)
    | 'f' :: 'a' :: 'l' :: 's' :: 'e' :: rest => (bool false, some rest)
    | '\x22' :: rest => orEnding ((readPieces? [] rest).map fun p => (textOfPieces p.1, p.2))
    | '[' :: rest =>
      match skipSpace rest with
      | ']' :: rest => (array [], some rest)
      | rest => readItems steps [] rest
    | '\x7b' :: rest =>
      match skipSpace rest with
      | '\x7d' :: rest => (object [], some rest)
      | rest => readMembers steps [] rest
    | rest => orEnding (readNumber? rest)

/-- Reads the items of an array up to its end. `read` holds the items so far, the latest first. -/
def readItems : Nat → List Json → List Char → Json × Option (List Char)
  | 0, read, _ => (array (flawed .ending :: read).reverse, none)
  | steps + 1, read, s =>
    match readValue steps s with
    | (item, none) => (array (item :: read).reverse, none)
    | (item, some rest) =>
      match skipSpace rest with
      | ',' :: rest => readItems steps (item :: read) rest
      | ']' :: rest => (array (item :: read).reverse, some rest)
      | _ => (array (flawed .ending :: item :: read).reverse, none)

/-- Reads the members of an object up to its end. -/
def readMembers : Nat → List (String × Json) → List Char → Json × Option (List Char)
  | 0, read, _ => (object (("", flawed .ending) :: read).reverse, none)
  | steps + 1, read, s =>
    match readName? s with
    | none => (object (("", flawed .ending) :: read).reverse, none)
    | some (name, rest) =>
      match readValue steps rest with
      | (value, none) => (object (member name value true :: read).reverse, none)
      | (value, some rest) =>
        let read := member name value false :: read
        match skipSpace rest with
        | ',' :: rest => readMembers steps read rest
        | '\x7d' :: rest => (object read.reverse, some rest)
        | _ => (object (("", flawed .ending) :: read).reverse, none)

end

/-- Decodes a text that holds one value. What stands behind the value is looked at last. -/
def decode {β : Type} (read : Json → Except ReadError β) (s : String) : Except ReadError β := do
  let chars := s.toList
  let (value, rest) := readValue (2 * chars.length + 2) chars
  let found ← read value
  if rest.any fun rest => (skipSpace rest).isEmpty then return found else throw .form

/-- The value of a text that holds exactly one. -/
def ofText? (s : String) : Option Json := (decode .ok s).toOption

end Json

end GossipGate
