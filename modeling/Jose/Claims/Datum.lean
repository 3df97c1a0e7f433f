import Jose.Error

/-!
What a caller may hand in as the value of a claim: more kinds of values than JSON has. Some become
JSON values of another kind, and some have no JSON form at all.
-/

namespace Jose

/-- A key of a map. Only simple keys can be written as names. -/
inductive DatumKey where
  | text (value : String)
  | int (value : Int)
  | bool (value : Bool)
  | compound
  deriving DecidableEq, Repr

inductive Datum where
  | json (value : Json)
  | nothing
  | bool (value : Bool)
  | int (value : Int)
  | real (value : Binary64)
  | nonFinite
  | text (value : String)
  | list (items : List Datum)
  | map (entries : List (DatumKey × Datum))
  /-- A value that refuses to be written. -/
  | refused (reason : String)
  deriving Repr

inductive DatumProblem where
  | numberOutOfRange
  | keyNotText
  | refused (reason : String)
  deriving DecidableEq, Repr

def DatumProblem.message : DatumProblem → String
  | numberOutOfRange => "number out of range"
  | keyNotText => "key must be a string"
  | refused reason => reason

def DatumKey.name : DatumKey → Except DatumProblem String
  | text value => .ok value
  | int value => .ok (toString value)
  | bool value => .ok (if value then "true" else "false")
  | compound => .error .keyNotText

namespace Datum

mutual

def toJson : Datum → Except DatumProblem Json
  | .json value => .ok value
  | .nothing | .nonFinite => .ok .null
  | .bool value => .ok (.bool value)
  | .int value =>
      if Number.leastInt ≤ value ∧ value ≤ Number.greatestInt then .ok (.int value)
      else .error .numberOutOfRange
  | .real value => .ok (.number (.real value))
  | .text value => .ok (.text value)
  | .list items => (itemsToJson items).map .list
  | .map entries => (entriesToJson [] entries).map .object
  | .refused reason => .error (.refused reason)

def itemsToJson : List Datum → Except DatumProblem (List Json)
  | [] => .ok []
  | item :: rest => do
      let value ← item.toJson
      let values ← itemsToJson rest
      return value :: values

def entriesToJson : Members Json → List (DatumKey × Datum) → Except DatumProblem (Members Json)
  | members, [] => .ok members
  | members, (key, item) :: rest => do
      let name ← key.name
      let value ← item.toJson
      entriesToJson (members.put name value) rest

end

/-- The JSON value of a claim. A claim has a name, and a value other than null. -/
def claimValue (name : String) (datum : Datum) : Except BuildError Json :=
  if name = "" then .error (.invalidClaim "claim name must not be empty")
  else match datum.toJson with
    | .error problem => .error (.invalidClaim ("claim '" ++ name ++ "': " ++ problem.message))
    | .ok .null => .error (.invalidClaim ("claim '" ++ name ++ "' must not be null"))
    | .ok value => .ok value

end Datum

end Jose
