import GossipGate.Scalar.Binary64

namespace GossipGate

/-- A JSON number: whole numbers of at most 64 bits stay exact, all others are doubles. -/
inductive JsonNumber where
  | int (value : Int)
  | float (value : Float)

/-- What can be wrong at one place of a JSON text. A `token` is well formed and has no value: a text
with an unpaired surrogate or a number out of range. A `name` is such a text before a colon. At an
`ending` the text stops being JSON, and nothing behind it is read. -/
inductive Flaw where
  | token | name | ending
  deriving DecidableEq, Repr

/-- A JSON value. Objects keep the order and the repetition of their names. A flaw stands in the
place of what it spoils. -/
inductive Json where
  | null
  | bool (value : Bool)
  | number (value : JsonNumber)
  | text (value : String)
  | array (items : List Json)
  | object (members : List (String × Json))
  | flawed (flaw : Flaw)

namespace Json

instance : Inhabited Json := ⟨null⟩

mutual

/-- How many containers lie inside one another. -/
def depth : Json → Nat
  | array items => depthItems items + 1
  | object members => depthMembers members + 1
  | _ => 0

def depthItems : List Json → Nat
  | [] => 0
  | item :: rest => max (depth item) (depthItems rest)

def depthMembers : List (String × Json) → Nat
  | [] => 0
  | (_, value) :: rest => max (depth value) (depthMembers rest)

end

mutual

/-- Whether every flaw inside a value is of an allowed kind. -/
def allows (allowed : Flaw → Bool) : Json → Bool
  | array items => allowsItems allowed items
  | object members => allowsMembers allowed members
  | flawed flaw => allowed flaw
  | _ => true

def allowsItems (allowed : Flaw → Bool) : List Json → Bool
  | [] => true
  | item :: rest => allows allowed item && allowsItems allowed rest

def allowsMembers (allowed : Flaw → Bool) : List (String × Json) → Bool
  | [] => true
  | (_, value) :: rest => allows allowed value && allowsMembers allowed rest

end

/-- Whether a value is without flaws. -/
def isSound (json : Json) : Bool := json.allows fun _ => false

/-- Whether a value has the form of JSON up to its end. -/
def isComplete (json : Json) : Bool := json.allows fun flaw => flaw ≠ .ending

def nat (n : Nat) : Json := number (.int n)

/-- A double, or null where it is not a finite number. -/
def float (x : Float) : Json := if x.isFinite then number (.float x) else null

/-- A value that may be missing, null standing for its absence. -/
def optional {β : Type} (write : β → Json) : Option β → Json
  | some value => write value
  | none => null

def bool? : Json → Option Bool
  | bool value => some value
  | _ => none

def text? : Json → Option String
  | text value => some value
  | _ => none

/-- A whole number from zero up to a bound, which is not reached. -/
def nat? (bound : Nat) : Json → Option Nat
  | number (.int (.ofNat n)) => if n < bound then some n else none
  | _ => none

def byte? (json : Json) : Option UInt8 := (nat? UInt8.size json).map UInt8.ofNat
def word? (json : Json) : Option UInt64 := (nat? UInt64.size json).map UInt64.ofNat

def float? : Json → Option Float
  | number (.int value) => some (Float.ofInt value)
  | number (.float value) => some value
  | _ => none

/-- One of some names: the name itself, or an object that holds null under it alone. -/
def name? {β : Type} (ofName? : String → Option β) : Json → Option β
  | text name => ofName? name
  | object [(name, null)] => ofName? name
  | _ => none

/-- The value of a name in an object, the last one where it repeats. -/
def get? (key : String) : Json → Option Json
  | object members => members.reverse.lookup key
  | _ => none

end Json

end GossipGate
