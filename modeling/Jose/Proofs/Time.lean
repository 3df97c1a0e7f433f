import Jose.Time
import Mathlib.Data.Rat.Floor
import Mathlib.Order.Lattice

/-!
Instants on the axis of nanoseconds. An instant is shifted along this axis and held between the
first and the last instant there is; its seconds are those of the axis, rounded down.
-/

namespace Jose.Instant

variable {instant now : Instant} {span : Span}

def InRange (span : Span) : Prop := earliest.sinceEpoch ≤ span ∧ span ≤ latest.sinceEpoch

structure IsRepresentable (instant : Instant) : Prop where
  nanos : instant.nanos < 1000000000
  inRange : InRange instant.sinceEpoch

theorem earliest_le_latest : earliest.sinceEpoch ≤ latest.sinceEpoch := by decide

theorem earliest_isRepresentable : earliest.IsRepresentable :=
  ⟨by decide, le_rfl, earliest_le_latest⟩

theorem latest_isRepresentable : latest.IsRepresentable :=
  ⟨by decide, earliest_le_latest, le_rfl⟩

theorem nanos_ofSinceEpoch (span : Span) : (ofSinceEpoch span).nanos < 1000000000 :=
  (Int.toNat_lt (Int.emod_nonneg span (by decide))).mpr (Int.emod_lt_of_pos span (by decide))

@[simp] theorem sinceEpoch_ofSinceEpoch (span : Span) : (ofSinceEpoch span).sinceEpoch = span := by
  have fraction : (((span % Span.perSecond).toNat : Nat) : Int) = span % Span.perSecond :=
    Int.toNat_of_nonneg (Int.emod_nonneg span (by decide))
  rw [sinceEpoch, ofSinceEpoch, fraction]
  exact Int.ediv_mul_add_emod span Span.perSecond

theorem seconds_eq (whole : instant.nanos < 1000000000) :
    instant.seconds = instant.sinceEpoch / Span.perSecond := by
  have fraction : (instant.nanos : Int) / Span.perSecond = 0 :=
    Int.ediv_eq_zero_of_lt (Int.natCast_nonneg _) (Int.ofNat_lt.mpr whole)
  rw [sinceEpoch, add_comm, Int.add_mul_ediv_right _ _ (by decide), fraction, zero_add]

theorem nanos_eq (whole : instant.nanos < 1000000000) :
    (instant.nanos : Int) = instant.sinceEpoch % Span.perSecond := by
  rw [sinceEpoch, add_comm, Int.add_mul_emod_self_right]
  exact (Int.emod_eq_of_lt (Int.natCast_nonneg _) (Int.ofNat_lt.mpr whole)).symm

/-- An instant is told by its place on the axis. -/
theorem eq_of_sinceEpoch {left right : Instant} (whole : left.nanos < 1000000000)
    (wholeToo : right.nanos < 1000000000) (same : left.sinceEpoch = right.sinceEpoch) :
    left = right := by
  have seconds : left.seconds = right.seconds := by
    rw [seconds_eq whole, seconds_eq wholeToo, same]
  have nanos : (left.nanos : Int) = right.nanos := by
    rw [nanos_eq whole, nanos_eq wholeToo, same]
  cases left
  cases right
  exact congrArg₂ mk seconds (Int.ofNat_inj.mp nanos)

theorem seconds_eq_floor (whole : instant.nanos < 1000000000) :
    instant.seconds = ⌊(instant.sinceEpoch : ℚ) / 1000000000⌋ := by
  rw [seconds_eq whole]
  exact (Rat.floor_intCast_div_natCast instant.sinceEpoch 1000000000).symm

theorem seconds_mono {earlier later : Instant} (whole : earlier.nanos < 1000000000)
    (wholeToo : later.nanos < 1000000000) (ordered : earlier.sinceEpoch ≤ later.sinceEpoch) :
    earlier.seconds ≤ later.seconds := by
  rw [seconds_eq whole, seconds_eq wholeToo]
  exact Int.ediv_le_ediv (by decide) ordered

theorem IsRepresentable.seconds_bounds (present : instant.IsRepresentable) :
    earliest.seconds ≤ instant.seconds ∧ instant.seconds ≤ latest.seconds :=
  ⟨seconds_mono (by decide) present.nanos present.inRange.1,
    seconds_mono present.nanos (by decide) present.inRange.2⟩

section Shift

/-- The bound that stands for what a span leads to beyond the bounds, by the sign of the span. -/
def boundFor (span : Span) : Instant := if span < 0 then earliest else latest

theorem boundFor_isRepresentable (span : Span) : (boundFor span).IsRepresentable := by
  rw [boundFor]
  split
  · exact earliest_isRepresentable
  · exact latest_isRepresentable

theorem shift_of_inRange (reached : InRange (now.sinceEpoch + span)) :
    now.shift span = ofSinceEpoch (now.sinceEpoch + span) := if_pos reached

theorem shift_of_not_inRange (unreached : ¬ InRange (now.sinceEpoch + span)) :
    now.shift span = boundFor span := if_neg unreached

theorem shift_above (present : now.IsRepresentable)
    (beyond : latest.sinceEpoch < now.sinceEpoch + span) : now.shift span = latest := by
  have forward : 0 < span := (lt_add_iff_pos_right _).mp (present.inRange.2.trans_lt beyond)
  rw [shift_of_not_inRange fun reached => beyond.not_ge reached.2, boundFor,
    if_neg forward.not_gt]

theorem shift_below (present : now.IsRepresentable)
    (beyond : now.sinceEpoch + span < earliest.sinceEpoch) : now.shift span = earliest := by
  have backward : span < 0 := add_lt_iff_neg_left.mp (beyond.trans_le present.inRange.1)
  rw [shift_of_not_inRange fun reached => beyond.not_ge reached.1, boundFor, if_pos backward]

theorem shift_isRepresentable (now : Instant) (span : Span) :
    (now.shift span).IsRepresentable := by
  by_cases reached : InRange (now.sinceEpoch + span)
  · rw [shift_of_inRange reached]
    refine ⟨nanos_ofSinceEpoch _, ?_⟩
    rwa [sinceEpoch_ofSinceEpoch]
  · rw [shift_of_not_inRange reached]
    exact boundFor_isRepresentable span

/-- The sign of the span tells on which side it can lead out of the bounds, so that the bound taken
for it is the nearer one. -/
theorem sinceEpoch_shift (present : now.IsRepresentable) (span : Span) :
    (now.shift span).sinceEpoch =
      max earliest.sinceEpoch (min latest.sinceEpoch (now.sinceEpoch + span)) := by
  have ordered := earliest_le_latest
  rcases lt_or_ge latest.sinceEpoch (now.sinceEpoch + span) with above | notAbove
  · rw [shift_above present above, min_eq_left above.le, max_eq_right ordered]
  · rw [min_eq_right notAbove]
    rcases lt_or_ge (now.sinceEpoch + span) earliest.sinceEpoch with below | notBelow
    · rw [shift_below present below, max_eq_left below.le]
    · rw [shift_of_inRange ⟨notBelow, notAbove⟩, sinceEpoch_ofSinceEpoch, max_eq_right notBelow]

theorem seconds_shift_mono (present : now.IsRepresentable) {shorter longer : Span}
    (ordered : shorter ≤ longer) : (now.shift shorter).seconds ≤ (now.shift longer).seconds := by
  refine seconds_mono (shift_isRepresentable now shorter).nanos
    (shift_isRepresentable now longer).nanos ?_
  rw [sinceEpoch_shift present, sinceEpoch_shift present]
  exact max_le_max le_rfl (min_le_min le_rfl (Int.add_le_add_left ordered _))

/-- Whole seconds leave the fraction of a second as it is. -/
theorem seconds_shift_whole (present : now.IsRepresentable) {seconds : Int}
    (reached : InRange (now.sinceEpoch + seconds * Span.perSecond)) :
    (now.shift (seconds * Span.perSecond)).seconds = now.seconds + seconds := by
  rw [shift_of_inRange reached, seconds_eq (nanos_ofSinceEpoch _), sinceEpoch_ofSinceEpoch,
    seconds_eq present.nanos]
  exact Int.add_mul_ediv_right _ _ (by decide)

end Shift

structure AddsExactly (add? : Span → Instant → Option Instant) : Prop where
  within : ∀ span instant, instant.IsRepresentable → InRange (instant.sinceEpoch + span) →
    ∃ reached, add? span instant = some reached ∧ reached.nanos < 1000000000 ∧
      reached.sinceEpoch = instant.sinceEpoch + span
  beyond : ∀ span instant, instant.IsRepresentable → ¬ InRange (instant.sinceEpoch + span) →
    add? span instant = none

theorem AddsExactly.getD_boundFor {add? : Span → Instant → Option Instant}
    (exact : AddsExactly add?) (present : now.IsRepresentable) (span : Span) :
    (add? span now).getD (boundFor span) = now.shift span := by
  by_cases reached : InRange (now.sinceEpoch + span)
  · obtain ⟨sum, added, whole, same⟩ := exact.within span now present reached
    rw [added, Option.getD_some, shift_of_inRange reached]
    refine eq_of_sinceEpoch whole (nanos_ofSinceEpoch _) ?_
    rw [same, sinceEpoch_ofSinceEpoch]
  · rw [exact.beyond span now present reached, Option.getD_none, shift_of_not_inRange reached]

end Jose.Instant
