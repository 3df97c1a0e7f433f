import Jose.Proofs.Claims.Finished
import Jose.Proofs.Time

/-!
The expiry that a caller sets by a span from now. It is the second in which the span ends, or that
of the bound beyond which it ends, and for a span of whole seconds the same as the expiry that a
configured lifespan of these seconds comes to.
-/

namespace Jose

theorem Claims.expiry_eq_add {lifespan : Nat} {issued : Int}
    (short : (lifespan : Int) ≤ greatestTime) (room : issued + lifespan ≤ greatestTime) :
    expiry lifespan issued = issued + lifespan := by
  rw [expiry, min_eq_left short, min_eq_left room]

namespace ClaimsBuilder

variable {builder next standing : ClaimsBuilder} {now : Instant} {span : Span}

theorem call_expiresIn (builder : ClaimsBuilder) (now : Instant) (span : Span) :
    builder.call now (.expiresIn span) = .ok { builder with
      entries := builder.entries.put "exp" (.int (now.shift span).seconds) } := rfl

theorem exitsWith_expiresIn (called : builder.call now (.expiresIn span) = .ok next)
    (around : Surroundings) :
    ∃ finished, next.ExitsWith finished around ∧
      finished.get? "exp" = some (.int (now.shift span).seconds) := by
  obtain rfl := Except.ok.inj (called.symm.trans (call_expiresIn builder now span))
  refine ⟨_, exitsWith_finish around _, ?_⟩
  rw [Claims.get?_finish_expiresAt, Members.get?_put]
  rfl

/-- Without an issue time and an expiry among its claims, a builder comes to an expiry that counts
from the clock. -/
theorem exitsWith_lifespan (unissued : standing.entries.get? "iat" = none)
    (unexpiring : standing.entries.get? "exp" = none) (around : Surroundings) :
    ∃ finished, standing.ExitsWith finished around ∧ finished.get? "exp" =
      some (.int (Claims.expiry standing.config.lifespan around.now.seconds)) := by
  refine ⟨_, exitsWith_finish around standing, ?_⟩
  have fromClock : (Claims.issuedAt? standing.entries).getD around.now.seconds =
      around.now.seconds := by
    rw [Claims.issuedAt?, ClaimName.issuedAt, unissued]
    rfl
  rw [Claims.get?_finish_expiresAt, unexpiring, fromClock]
  rfl

theorem expiry_eq_shift (present : now.IsRepresentable) {lifespan : Nat}
    (reached : Instant.InRange (now.sinceEpoch + lifespan * Span.perSecond)) :
    Claims.expiry lifespan now.seconds = (now.shift (lifespan * Span.perSecond)).seconds := by
  have whole := Instant.seconds_shift_whole present reached
  have early := present.seconds_bounds.1
  have late := (Instant.shift_isRepresentable now (lifespan * Span.perSecond)).seconds_bounds.2
  rw [whole] at late ⊢
  simp only [Instant.earliest, Instant.latest] at early late
  exact Claims.expiry_eq_add (by rw [Claims.greatestTime]; omega)
    (by rw [Claims.greatestTime]; omega)

structure SetsExpiryExactly (builder : ClaimsBuilder) (now : Instant) : Prop where
  called : ∀ span, builder.call now (.expiresIn span) = .ok { builder with
    entries := builder.entries.put "exp" (.int (now.shift span).seconds) }
  within : ∀ span, Instant.InRange (now.sinceEpoch + span) →
    (now.shift span).seconds = ⌊((now.sinceEpoch + span : Int) : ℚ) / 1000000000⌋
  above : ∀ span, Instant.latest.sinceEpoch < now.sinceEpoch + span →
    (now.shift span).seconds = Instant.latest.seconds
  below : ∀ span, now.sinceEpoch + span < Instant.earliest.sinceEpoch →
    (now.shift span).seconds = Instant.earliest.seconds
  bounded : ∀ span, (now.shift span).IsRepresentable
  added : ∀ add?, Instant.AddsExactly add? → ∀ span,
    (add? span now).getD (Instant.boundFor span) = now.shift span
  monotone : ∀ shorter longer, shorter ≤ longer →
    (now.shift shorter).seconds ≤ (now.shift longer).seconds
  shown : ∀ span next, builder.call now (.expiresIn span) = .ok next → ∀ around,
    ∃ finished, next.ExitsWith finished around ∧
      finished.expiresAt = some (now.shift span).seconds
  configured : ∀ (lifespan : Nat) (next standing : ClaimsBuilder),
    Instant.InRange (now.sinceEpoch + lifespan * Span.perSecond) →
    builder.call now (.expiresIn (lifespan * Span.perSecond)) = .ok next →
    standing.config.lifespan = lifespan → standing.entries.get? "iat" = none →
    standing.entries.get? "exp" = none → ∀ around, around.now = now →
      ∃ hastened finished, next.ExitsWith hastened around ∧
        standing.ExitsWith finished around ∧ hastened.get? "exp" = finished.get? "exp"

/-- A span from now sets the expiry to the second of the exact instant between the first and the
last one, and to the bound on the side of the span where there is no such instant. -/
theorem setsExpiryExactly (present : now.IsRepresentable) (builder : ClaimsBuilder) :
    builder.SetsExpiryExactly now where
  called := call_expiresIn builder now
  within := by
    intro span reached
    rw [Instant.shift_of_inRange reached,
      Instant.seconds_eq_floor (Instant.nanos_ofSinceEpoch _), Instant.sinceEpoch_ofSinceEpoch]
  above := fun _ beyond => congrArg Instant.seconds (Instant.shift_above present beyond)
  below := fun _ beyond => congrArg Instant.seconds (Instant.shift_below present beyond)
  bounded := Instant.shift_isRepresentable now
  added := fun _ exact => exact.getD_boundFor present
  monotone := fun _ _ => Instant.seconds_shift_mono present
  shown := by
    intro span next called around
    obtain ⟨finished, exits, expires⟩ := exitsWith_expiresIn called around
    obtain ⟨early, late⟩ := (Instant.shift_isRepresentable now span).seconds_bounds
    simp only [Instant.earliest, Instant.latest] at early late
    refine ⟨finished, exits, ?_⟩
    rw [Claims.expiresAt, ClaimName.expiresAt, expires]
    exact Json.int64?_int (by omega) (by omega)
  configured := by
    rintro lifespan next standing reached called rfl unissued unexpiring around rfl
    obtain ⟨hastened, exits, expires⟩ := exitsWith_expiresIn called around
    obtain ⟨finished, exitsToo, expiresToo⟩ := exitsWith_lifespan unissued unexpiring around
    refine ⟨hastened, finished, exits, exitsToo, ?_⟩
    rw [expires, expiresToo, expiry_eq_shift present reached]

def beforeEpoch : Instant := ⟨-2, 500000000⟩

theorem setsExpiryExactly_beforeEpoch :
    beforeEpoch.IsRepresentable ∧ Instant.InRange (beforeEpoch.sinceEpoch + 1400000000) ∧
      (beforeEpoch.shift 1400000000).seconds = -1 ∧
      (beforeEpoch.shift Span.longest).seconds = 8210266876799 ∧
      (beforeEpoch.shift Span.shortest).seconds = -8334601228800 ∧
      ∃ next hastened finished,
        (make .standard).call beforeEpoch (.expiresIn (300 * Span.perSecond)) = .ok next ∧
        next.ExitsWith hastened { Surroundings.still with now := beforeEpoch } ∧
        (make .standard).ExitsWith finished { Surroundings.still with now := beforeEpoch } ∧
        hastened.get? "exp" = finished.get? "exp" := by
  have present : beforeEpoch.IsRepresentable := ⟨by decide, by decide, by decide⟩
  have exact := setsExpiryExactly present (make .standard)
  have reached : Instant.InRange (beforeEpoch.sinceEpoch + 1400000000) := ⟨by decide, by decide⟩
  obtain ⟨hastened, finished, exits, exitsToo, same⟩ := exact.configured 300 _ (make .standard)
    ⟨by decide, by decide⟩ (exact.called _) rfl rfl rfl
    { Surroundings.still with now := beforeEpoch } rfl
  refine ⟨present, reached, ?_, exact.above Span.longest (by decide),
    exact.below Span.shortest (by decide), _, hastened, finished, exact.called _, exits, exitsToo,
    same⟩
  rw [exact.within _ reached]
  exact (Rat.floor_intCast_div_natCast (-100000000) 1000000000).trans rfl

end ClaimsBuilder

end Jose
