import Jose.Json.Reader
import Jose.Json.Scan

/-!
Records in JSON. A record is written as an object and read from an object, in any order of its
fields and with others ignored, or from a list in the order of its fields. Reading starts from a
blank record and sets one field after the other, so that a field left out keeps its blank value.
-/

namespace Jose

structure Record (α : Type) where
  title : String
  fields : List String
  /-- Fields that an object must have. -/
  required : List String
  /-- Fields that a list must reach. -/
  positional : List String
  blank : α
  set : Origin → String → Document → α → Except Problem α

namespace Record

variable {α : Type}

/-- One member of an object, after the fields named `seen`. -/
def readMember (record : Record α) (origin : Origin) (state : List String × α)
    (member : Document × Document) : Except Problem (List String × α) := do
  let name ← member.1.name
  if record.fields.contains name then
    if state.1.contains name then .error (.duplicateField name)
    else
      let value ← record.set origin name member.2 state.2
      return (name :: state.1, value)
  else
    member.2.skip
    return state

def readMembers (record : Record α) (origin : Origin) (state : List String × α) :
    List (Document × Document) → Except Problem (List String × α)
  | [] => .ok state
  | member :: rest => do
      let next ← record.readMember origin state member
      readMembers record origin next rest

def readObject (record : Record α) (origin : Origin) (members : List (Document × Document))
    (ending : Option Fault) : Except Problem α := do
  let state ← record.readMembers origin ([], record.blank) members
  Document.refuse (ending.map Fault.read)
  match record.required.find? fun name => !state.1.contains name with
  | some name => .error (.missingField name)
  | none => return state.2

def size (record : Record α) : String :=
  record.title ++ " with " ++ toString record.fields.length ++ " elements"

def endList (origin : Origin) (length : Nat) (rest : List Document) (ending : Option Fault) :
    Except Problem Unit :=
  match origin, rest, ending with
  | _, [], none => .ok ()
  | .value, _, _ => .error (.invalidLength length "fewer elements in array")
  | .text, [], some fault =>
      .error (if fault.read = .expectedCommaInList then .trailingCharacters else fault.read)
  | .text, _ :: _, _ => .error .trailingCharacters

/-- The fields of a list by position; `index` of them are set. -/
def readItems (record : Record α) (origin : Origin) (length index : Nat) (value : α)
    (ending : Option Fault) : List String → List Document → Except Problem α
  | [], rest => do
      endList origin length rest ending
      return value
  | name :: names, item :: items => do
      let next ← record.set origin name item value
      readItems record origin length (index + 1) next ending names items
  | name :: names, [] => do
      Document.refuse (ending.map Fault.read)
      if record.positional.contains name then .error (.invalidLength index record.size)
      else readItems record origin length (index + 1) value ending names []

def read (record : Record α) (origin : Origin) : Reader α
  | .object members ending => record.readObject origin members ending
  | .list items ending =>
      record.readItems origin items.length 0 record.blank ending record.fields items
  | document => document.mismatch record.title

def ofBytes (record : Record α) (bytes : Bytes) : Except Problem α :=
  (Scanned.ofBytes bytes).readWith (record.read .text)

def ofJson (record : Record α) (value : Json) : Except Problem α :=
  record.read .value (.ofJson value)

end Record

end Jose
