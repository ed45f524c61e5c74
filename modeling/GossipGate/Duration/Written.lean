import GossipGate.Duration
import GossipGate.Text.Blank
import GossipGate.Text.Numeral

namespace GossipGate

inductive DurationUnit where
  | year | month | week | day | hour | minute | second | milli | micro | nano
  deriving DecidableEq, Repr

namespace DurationUnit

/-- A year is 365.25 days and a month 30.44 days. -/
def nanos : DurationUnit → Nat
  | year => 31557600000000000
  | month => 2630016000000000
  | week => 604800000000000
  | day => 86400000000000
  | hour => 3600000000000
  | minute => 60000000000
  | second => 1000000000
  | milli => 1000000
  | micro => 1000
  | nano => 1

def names : DurationUnit → List String
  | year => ["years", "year", "yrs", "yr", "y"]
  | month => ["months", "month", "M"]
  | week => ["weeks", "week", "wks", "wk", "w"]
  | day => ["days", "day", "d"]
  | hour => ["hours", "hour", "hrs", "hr", "h"]
  | minute => ["minutes", "minute", "mins", "min", "m"]
  | second => ["seconds", "second", "secs", "sec", "s"]
  | milli => ["millis", "msec", "ms"]
  | micro => ["usec", "us", "µs"]
  | nano => ["nanos", "nsec", "ns"]

def all : List DurationUnit :=
  [year, month, week, day, hour, minute, second, milli, micro, nano]

def ofName? (name : String) : Option DurationUnit := all.find? fun u => u.names.contains name

/-- The name behind a count: the three longest units have a plural, the others a short name. -/
def label (count : Nat) : DurationUnit → String
  | year => if count = 1 then "year" else "years"
  | month => if count = 1 then "month" else "months"
  | week => if count = 1 then "week" else "weeks"
  | day => if count = 1 then "day" else "days"
  | hour => "h"
  | minute => "m"
  | second => "s"
  | milli => "ms"
  | micro => "us"
  | nano => "ns"

/-- Whether amounts of this unit are counted in nanoseconds while a text is read. -/
def isSubsecond : DurationUnit → Bool
  | milli | micro | nano => true
  | _ => false

/-- The whole by which a decimal fraction of the unit is multiplied, and whether that counts
nanoseconds; longer units count whole seconds. A nanosecond has no fractions. -/
def fractionScale? : DurationUnit → Option (Nat × Bool)
  | nano => none
  | micro => some (1000, true)
  | milli => some (1000000, true)
  | second => some (1000000000, true)
  | minute => some (60000000000, true)
  | unit => some (unit.nanos / 1000000000, false)

/-- The units of a written duration, longest first; weeks are read and never written. -/
def written : List DurationUnit := [year, month, day, hour, minute, second, milli, micro, nano]

/-- How often each unit in turn fits into what the longer ones left. -/
def split : List DurationUnit → Nat → List (Nat × DurationUnit)
  | [], _ => []
  | unit :: shorter, n => (n / unit.nanos, unit) :: split shorter (n % unit.nanos)

end DurationUnit

namespace Duration

/-- The non-zero parts of a duration, longest unit first. -/
def parts (d : Duration) : List (Nat × DurationUnit) :=
  (DurationUnit.split DurationUnit.written d.nanos).filter fun part => part.1 ≠ 0

def partText (part : Nat × DurationUnit) : List Char :=
  Nat.toDigits 10 part.1 ++ (part.2.label part.1).toList

/-- The written form: non-zero parts with a space between them, and `0s` for zero. -/
def written (d : Duration) : String :=
  if d.nanos = 0 then "0s" else String.ofList (List.intercalate [' '] (d.parts.map partText))

/-- Adds nanoseconds to a running total; they must fit a word together with the part of the total
below one second. What becomes too long is refused, and is a fault where those two make exactly one
second. -/
def addNanos (total extra : Nat) : Except ReadError Nat :=
  let subsecond := total % 1000000000 + extra
  if UInt64.size ≤ subsecond then .error .form
  else if total + extra < limit then .ok (total + extra)
  else if subsecond = 1000000000 then .error (.fault .durationRange)
  else .error .form

def addSeconds (total extra : Nat) : Except ReadError Nat :=
  if total + extra * 1000000000 < limit then .ok (total + extra * 1000000000) else .error .form

/-- Adds a whole number of units to a running total, all counts being 64-bit words. -/
def addWhole (unit : DurationUnit) (count total : Nat) : Except ReadError Nat :=
  if unit.isSubsecond then
    if count * unit.nanos < UInt64.size then addNanos total (count * unit.nanos)
    else .error .form
  else
    let seconds := count * (unit.nanos / 1000000000)
    if seconds < UInt64.size then addSeconds total seconds else .error .form

/-- Adds a decimal fraction of a unit to a running total. It must come out exact. -/
def addFraction (unit : DurationUnit) (digits : List Char) (total : Nat) :
    Except ReadError Nat := do
  let (scale, countsNanos) ← ReadError.present unit.fractionScale?
  let den := Nat.pow 10 digits.length
  let scaled := decimalValue digits * scale
  if scaled < UInt64.size ∧ scaled % den = 0 then
    if countsNanos then addNanos total (scaled / den) else addSeconds total (scaled / den)
  else .error .form

def isNumeral (c : Char) : Bool := isDigit c || isBlank c
def isUnitLetter (c : Char) : Bool := c.isAlpha || c == 'µ'

/-- Whether a unit name may stop before this rest. -/
def endsUnit : List Char → Bool
  | [] => true
  | c :: _ => isDigit c || isBlank c

/-- Reads the digits of a number, which blanks may interrupt. -/
def readDigits (s : List Char) : List Char × List Char :=
  ((s.takeWhile isNumeral).filter isDigit, s.dropWhile isNumeral)

/-- The parts of one amount: its whole digits, the digits of its fraction, and its unit. -/
structure WrittenAmount where
  whole : List Char
  fraction : Option (List Char)
  unit : DurationUnit

namespace WrittenAmount

/-- Whether both numbers fit a word, with the power of ten below the fraction. -/
def fits (amount : WrittenAmount) : Bool :=
  decimalValue amount.whole < UInt64.size &&
    amount.fraction.all fun digits => Nat.pow 10 digits.length < UInt64.size

/-- Adds an amount to a running total, the whole before the fraction. -/
def addTo (amount : WrittenAmount) (total : Nat) : Except ReadError Nat := do
  let total ← addWhole amount.unit (decimalValue amount.whole) total
  match amount.fraction with
  | some digits => addFraction amount.unit digits total
  | none => return total

end WrittenAmount

/-- Reads one number with its unit. -/
def readAmount? (s : List Char) : Option (WrittenAmount × List Char) := do
  let (whole, rest) := readDigits s
  let (fraction, rest) ←
    match rest with
    | '.' :: rest =>
      let (digits, rest) := readDigits rest
      if digits.isEmpty then none else some (some digits, rest)
    | rest => some (none, rest)
  let unit ← DurationUnit.ofName? (String.ofList (rest.takeWhile isUnitLetter))
  let rest := rest.dropWhile isUnitLetter
  let amount : WrittenAmount := { whole, fraction, unit }
  if amount.fits && endsUnit rest then some (amount, rest) else none

/-- Adds up amounts up to the end of the text, each as soon as it is read. `steps` bounds their
number. -/
def readAmounts : Nat → Nat → List Char → Except ReadError Nat
  | 0, _, _ => .error .form
  | steps + 1, total, s =>
    match s.dropWhile isBlank with
    | [] => .ok total
    | first :: rest =>
      if isDigit first then do
        let (amount, rest) ← ReadError.present (readAmount? (first :: rest))
        readAmounts steps (← amount.addTo total) rest
      else .error .form

/-- Reads a written duration: numbers with units, added up in any order. A lone `0` is zero. -/
def ofWritten (s : String) : Except ReadError Duration :=
  let text := s.toList
  if text = ['0'] then .ok zero
  else if text.all isBlank then .error .form
  else do
    let total ← readAmounts (text.length + 1) 0 text
    ReadError.present (ofNanos? total)

end Duration

end GossipGate
