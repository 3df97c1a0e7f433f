/-!
Points in time and spans between them, counted exactly. A point lies between two bounds; a span that
leads out of them leads to the bound on its side.
-/

namespace Jose

/-- A span of time in nanoseconds. -/
abbrev Span := Int

namespace Span

def perSecond : Span := 1000000000

/-- The longest span: a signed 64-bit count of milliseconds. -/
def longest : Span := 9223372036854775807 * 1000000

def shortest : Span := -longest

end Span

/-- Whole seconds since the epoch, and nanoseconds beyond them. -/
structure Instant where
  seconds : Int
  nanos : Nat
  deriving DecidableEq, Repr

namespace Instant

/-- The first second of the year -262143. -/
def earliest : Instant := ⟨-8334601228800, 0⟩

/-- The last nanosecond of the year 262142. -/
def latest : Instant := ⟨8210266876799, 999999999⟩

def sinceEpoch (instant : Instant) : Span := instant.seconds * Span.perSecond + instant.nanos

/-- The instant a span after the epoch; its seconds are rounded down. -/
def ofSinceEpoch (span : Span) : Instant :=
  ⟨span / Span.perSecond, (span % Span.perSecond).toNat⟩

/-- The instant a span later or, for a negative span, earlier. -/
def shift (span : Span) (instant : Instant) : Instant :=
  let reached := instant.sinceEpoch + span
  if earliest.sinceEpoch ≤ reached ∧ reached ≤ latest.sinceEpoch then ofSinceEpoch reached
  else if span < 0 then earliest
  else latest

end Instant

end Jose
