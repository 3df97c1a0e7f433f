import Jose.Json.Basic
import Jose.Json.Problem

/-!
A JSON text as a tree that keeps what is wrong with it, at the place where it is wrong. Reading a
document in order meets the first problem first, whatever its kind. A fault has two sides, since a
member that nobody asks for is only skipped: skipping does not look into numbers and characters.
-/

namespace Jose

structure Fault where
  read : Problem
  skip : Problem
  deriving DecidableEq, Repr

namespace Fault

def both (problem : Problem) : Fault := ⟨problem, problem⟩

end Fault

/-- What a value that ends in a fault set out to be, judged by its first octet. -/
inductive Opening where
  | null
  | text
  | other
  | nothing
  deriving DecidableEq, Repr

/-- `number none` is a number beyond the largest double. The name of a member is whatever stands in
its place. A list or object without an ending fault is closed, or its last part is broken. -/
inductive Document where
  | null
  | bool (value : Bool)
  | number (value : Option Number)
  | text (value : Except Problem String)
  | list (items : List Document) (ending : Option Fault)
  | object (members : List (Document × Document)) (ending : Option Fault)
  | broken (opening : Opening) (fault : Fault)

namespace Document

mutual

def ofJson : Json → Document
  | .null => .null
  | .bool value => .bool value
  | .number value => .number (some value)
  | .text value => .text (.ok value)
  | .list items => .list (ofItems items) none
  | .object members => .object (ofMembers members) none

def ofItems : List Json → List Document
  | [] => []
  | item :: rest => ofJson item :: ofItems rest

def ofMembers : List (String × Json) → List (Document × Document)
  | [] => []
  | (name, value) :: rest => (.text (.ok name), ofJson value) :: ofMembers rest

end

def name : Document → Except Problem String
  | .text value => value
  | .broken .text fault => .error fault.read
  | _ => .error .nameNotText

def refuse : Option Problem → Except Problem Unit
  | none => .ok ()
  | some problem => .error problem

mutual

/-- Reads a value with at most `depth` lists and objects inside each other. -/
def toJson (depth : Nat) : Document → Except Problem Json
  | .null => .ok .null
  | .bool value => .ok (.bool value)
  | .number (some value) => .ok (.number value)
  | .number none => .error .numberOutOfRange
  | .text (.ok value) => .ok (.text value)
  | .text (.error problem) => .error problem
  | .list items ending =>
      match depth with
      | 0 => .error .tooDeep
      | inner + 1 => do
          let values ← toItems inner items
          refuse (ending.map Fault.read)
          return .list values
  | .object members ending =>
      match depth with
      | 0 => .error .tooDeep
      | inner + 1 => do
          let values ← toMembers inner [] members
          refuse (ending.map Fault.read)
          return .object values
  | .broken _ fault => .error fault.read

def toItems (depth : Nat) : List Document → Except Problem (List Json)
  | [] => .ok []
  | item :: rest => do
      let value ← toJson depth item
      let values ← toItems depth rest
      return value :: values

/-- A repeated name keeps its first place and takes its last value. -/
def toMembers (depth : Nat) (before : Members Json) :
    List (Document × Document) → Except Problem (Members Json)
  | [] => .ok before
  | (key, item) :: rest => do
      let label ← key.name
      let value ← toJson depth item
      toMembers depth (before.put label value) rest

end

def skippedName : Document → Option Problem
  | .text _ => none
  | .broken .text fault => some fault.skip
  | _ => some .nameNotText

mutual

def skipped : Document → Option Problem
  | .list items ending => (skippedItems items).or (ending.map Fault.skip)
  | .object members ending => (skippedMembers members).or (ending.map Fault.skip)
  | .broken _ fault => some fault.skip
  | _ => none

def skippedItems : List Document → Option Problem
  | [] => none
  | item :: rest => (skipped item).or (skippedItems rest)

def skippedMembers : List (Document × Document) → Option Problem
  | [] => none
  | (key, item) :: rest => (key.skippedName.or (skipped item)).or (skippedMembers rest)

end

end Document

end Jose
