import GossipGate.Fault
import GossipGate.Json

namespace GossipGate

/-- Reads one kind of thing from the JSON value that stands for it. -/
abbrev JsonReader (β : Type) := Json → Except ReadError β

namespace JsonReader

variable {β : Type}

/-- Reads what has a plain form, where reading has no faults. -/
def plain (read? : Json → Option β) : JsonReader β := fun json => ReadError.present (read? json)

/-- Null is the absence of a value; anything else has to be one. -/
def orNull (read : JsonReader β) : JsonReader (Option β)
  | .null => .ok none
  | json => (read json).map some

/-- Reads the items of an array in order. -/
def list (read : JsonReader β) : JsonReader (List β)
  | .array items => items.mapM read
  | _ => .error .form

/-- Passes over a member that is no field; it has to have a name and the form of JSON. -/
def skip : JsonReader Unit
  | .flawed .name => .error .form
  | json => if json.isComplete then .ok () else .error .form

end JsonReader

/-- The values of a record by name, from an object or by their places in an array. -/
structure JsonRecord where
  positional : Bool
  fields : List (String × Json)

/-- Reads a record of named fields. `checks` reads each field for itself, in the order in which an
array has them; `build` makes the record out of all fields. -/
structure RecordReader (β : Type) where
  checks : List (String × JsonReader Unit)
  build : JsonRecord → Except ReadError β

namespace RecordReader

variable {β : Type}

/-- The fields of the function come before those of its argument. -/
instance : Applicative RecordReader where
  pure value := ⟨[], fun _ => .ok value⟩
  seq f x :=
    let argument := x ()
    { checks := f.checks ++ argument.checks
      build := fun record => do
        let apply ← f.build record
        let value ← argument.build record
        return apply value }

/-- One field. `absent` is its value where it is left out, which may depend on whether the record
is an array. -/
def field (name : String) (read : JsonReader β) (absent : Bool → Except ReadError β) :
    RecordReader β where
  checks := [(name, fun json => (read json).map fun _ => ())]
  build record :=
    match record.fields.lookup name with
    | some json => read json
    | none => absent record.positional

/-- A field that has to be there. -/
def required (name : String) (read : JsonReader β) : RecordReader β :=
  field name read fun _ => .error .form

/-- A field that may be null, and that an object may leave out. -/
def optional (name : String) (read : JsonReader β) : RecordReader (Option β) :=
  field name read.orNull fun positional => if positional then .error .form else .ok none

/-- A field with a value of its own where it is left out. -/
def withDefault (name : String) (read : JsonReader β) (value : β) : RecordReader β :=
  field name read fun _ => .ok value

/-- Checks the members of an object in order. No field may be there twice. -/
def checkMembers (checks : List (String × JsonReader Unit)) (seen : List String) :
    List (String × Json) → Except ReadError Unit
  | [] => .ok ()
  | (name, json) :: rest => do
    match checks.lookup name with
    | some check => if seen.contains name then throw .form else check json
    | none => JsonReader.skip json
    checkMembers checks (name :: seen) rest

/-- Checks the items of an array in order. There may be no more of them than fields. -/
def checkItems : List (String × JsonReader Unit) → List Json → Except ReadError Unit
  | _, [] => .ok ()
  | [], _ :: _ => .error .form
  | (_, check) :: checks, json :: rest => do
    check json
    checkItems checks rest

/-- Reads a record. The first place at which it cannot be read decides the error, and fields that
are left out count last. -/
def read (reader : RecordReader β) : JsonReader β
  | .object members => do
    checkMembers reader.checks [] members
    reader.build ⟨false, members⟩
  | .array items => do
    checkItems reader.checks items
    reader.build ⟨true, (reader.checks.map Prod.fst).zip items⟩
  | _ => .error .form

end RecordReader

end GossipGate
