import Jose.Error
import Jose.Event

/-!
A build as a value: how it ends, and the trace of what it read and reported on the way. A build may
end with a result, with an error, or with a crash of the key source it was given.
-/

namespace Jose

inductive Outcome (α : Type) where
  | done (value : α)
  | failed (error : BuildError)
  | crashed
  deriving DecidableEq, Repr

inductive Note where
  | event (event : Event)
  | read (location : String)
  deriving DecidableEq, Repr

structure Build (α : Type) where
  trace : List Note
  outcome : Outcome α
  deriving DecidableEq, Repr

namespace Outcome

def ofExcept : Except BuildError α → Outcome α
  | .ok value => .done value
  | .error error => .failed error

end Outcome

namespace Build

def pure (value : α) : Build α := ⟨[], .done value⟩

/-- The second build goes on only where the first has a result. -/
def bind (first : Build α) (next : α → Build β) : Build β :=
  match first.outcome with
  | .done value => ⟨first.trace ++ (next value).trace, (next value).outcome⟩
  | .failed error => ⟨first.trace, .failed error⟩
  | .crashed => ⟨first.trace, .crashed⟩

instance : Monad Build where
  pure := pure
  bind := bind

def report (event : Event) : Build Unit := ⟨[.event event], .done ()⟩

def fail (error : BuildError) : Build α := ⟨[], .failed error⟩

def ofExcept (answer : Except BuildError α) : Build α := ⟨[], .ofExcept answer⟩

def reads (trace : List Note) : List String :=
  trace.filterMap fun
    | .read location => some location
    | .event _ => none

def events (trace : List Note) : List Event :=
  trace.filterMap fun
    | .event event => some event
    | .read _ => none

end Build

end Jose
