import GossipGate.Json
import GossipGate.Table

namespace GossipGate

namespace Json

mutual

/-- A value in which each name of an object has only its last value. -/
def settled : Json → Json
  | array items => array (settledItems items)
  | object members => object (Table.ofList (settledMembers members)).entries
  | other => other

def settledItems : List Json → List Json
  | [] => []
  | item :: rest => settled item :: settledItems rest

def settledMembers : List (String × Json) → List (String × Json)
  | [] => []
  | (name, value) :: rest => (name, settled value) :: settledMembers rest

end

/-- How many containers inside one another a value may have that is kept. -/
def maxDepth : Nat := 127

/-- Reads values that are kept whole, by name. They lie in a record, so one level of depth is
taken. -/
def kept? : Json → Option (Table String Json)
  | object members =>
    if (object members).isSound && (object members).depth < maxDepth then
      some (Table.ofList (settledMembers members))
    else none
  | _ => none

end Json

end GossipGate
