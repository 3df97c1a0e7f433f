/-!
Ordered members: names with values, in the order of their first writing. Writing a name again
replaces its value and keeps its place.
-/

namespace Jose

abbrev Members (α : Type) := List (String × α)

namespace Members

variable {α : Type}

def names (members : Members α) : List String := members.map Prod.fst

def get? (name : String) (members : Members α) : Option α := List.lookup name members

def has (name : String) (members : Members α) : Bool := (members.get? name).isSome

def put (name : String) (value : α) : Members α → Members α
  | [] => [(name, value)]
  | (present, held) :: rest =>
      if present = name then (present, value) :: rest else (present, held) :: put name value rest

/-- Writes the value only where the name is still free. -/
def putNew (name : String) (value : α) (members : Members α) : Members α :=
  if members.has name then members else members.put name value

def putAll (later : List (String × α)) (members : Members α) : Members α :=
  later.foldl (fun members entry => members.put entry.1 entry.2) members

def drop (name : String) (members : Members α) : Members α :=
  members.filter fun entry => entry.1 ≠ name

end Members

end Jose
