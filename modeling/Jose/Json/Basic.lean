import Jose.Json.Members
import Jose.Number.Shortest

/-!
JSON values. Integers from `-2^63` to `2^64 - 1` stay integers; every other number is a double.
Objects keep the order of their members.
-/

namespace Jose

inductive Number where
  | int (value : Int)
  | real (value : Binary64)
  deriving DecidableEq, Repr

namespace Number

def leastInt : Int := -0x8000000000000000

def greatestInt : Int := 0xffffffffffffffff

def text : Number → String
  | .int value => toString value
  | .real value => value.text

end Number

inductive Json where
  | null
  | bool (value : Bool)
  | number (value : Number)
  | text (value : String)
  | list (items : List Json)
  | object (members : List (String × Json))
  deriving Repr

namespace Json

def int (value : Int) : Json := .number (.int value)

def isNull : Json → Bool
  | .null => true
  | _ => false

def text? : Json → Option String
  | .text value => some value
  | _ => none

def bool? : Json → Option Bool
  | .bool value => some value
  | _ => none

def list? : Json → Option (List Json)
  | .list items => some items
  | _ => none

def object? : Json → Option (Members Json)
  | .object members => some members
  | _ => none

def int? : Json → Option Int
  | .number (.int value) => some value
  | _ => none

def int64? (value : Json) : Option Int :=
  value.int?.filter fun number => -0x8000000000000000 ≤ number ∧ number ≤ 0x7fffffffffffffff

def get? (name : String) (value : Json) : Option Json := value.object?.bind (Members.get? name)

def ofOption (encode : α → Json) : Option α → Json
  | none => .null
  | some value => encode value

mutual

/-- The second value laid over the first: objects merge member by member, all else replaces. -/
def merge : Json → Json → Json
  | .object present, .object members => .object (mergeMembers present members)
  | _, replacement => replacement

def mergeMembers : Members Json → List (String × Json) → Members Json
  | present, [] => present
  | present, (name, value) :: rest =>
      let merged := match present.get? name with
        | some held => merge held value
        | none => value
      mergeMembers (present.put name merged) rest

end

end Json

end Jose
