import Jose.Proofs.Config
import Jose.Proofs.Members
import Jose.Builder
import Mathlib.Tactic.NormNum
import Mathlib.Tactic.Positivity

/-!
The expiry that is added to claims without one. It counts from an issue time that is an integer of
64 bits, up to the greatest time, and from the clock beside any other number.
-/

namespace Jose

def Binary64.value (number : Binary64) : ℚ :=
  (if number.negative then -1 else 1) * (number.ratio.1 / number.ratio.2)

def Number.value : Number → ℚ
  | int value => value
  | real number => number.value

theorem Json.int64?_int {value : Int} (least : -2 ^ 63 ≤ value) (greatest : value < 2 ^ 63) :
    (Json.int value).int64? = some value := by
  have inside : -0x8000000000000000 ≤ value ∧ value ≤ 0x7fffffffffffffff := by omega
  simp [Json.int64?, Json.int?, Json.int, Option.filter, inside]

theorem Json.int64?_of_outside {issued : Number}
    (outside : ∀ value, issued = .int value → value < -2 ^ 63 ∨ 2 ^ 63 ≤ value) :
    (Json.number issued).int64? = none := by
  cases issued with
  | real number => rfl
  | int value =>
      have beyond := outside value rfl
      have unfit : ¬ (-0x8000000000000000 ≤ value ∧ value ≤ 0x7fffffffffffffff) := by omega
      simp [Json.int64?, Json.int?, Option.filter, unfit]

namespace Claims

def ExpiresLater (claims : Claims) : Prop :=
  ∃ issued expiring : Number, claims.get? "iat" = some (.number issued) ∧
    claims.get? "exp" = some (.number expiring) ∧ issued.value < expiring.value

variable {config : Config} {entries : Members Json} {now : Int} {tokenId : String}

theorem get?_putOption {name other : String} (apart : other ≠ name) (value : Option String)
    (entries : Members Json) : (putOption name value entries).get? other = entries.get? other := by
  cases value with
  | none => rfl
  | some text => rw [putOption, Members.get?_putNew, if_neg apart]

theorem get?_finish_issuedAt (config : Config) (now : Int) (tokenId : String)
    (entries : Members Json) :
    (finish config now tokenId entries).get? "iat" =
      some ((entries.get? "iat").getD (.int now)) := by
  rw [get?, finish]
  dsimp only
  rw [get?_putOption (by decide), get?_putOption (by decide), Members.get?_putNew,
    if_neg (by decide), Members.get?_putNew, if_neg (by decide), Members.get?_putNew,
    if_pos (by decide)]
  rfl

theorem get?_finish_expiresAt (config : Config) (now : Int) (tokenId : String)
    (entries : Members Json) :
    (finish config now tokenId entries).get? "exp" =
      some ((entries.get? "exp").getD
        (.int (expiry config.lifespan ((issuedAt? entries).getD now)))) := by
  rw [get?, finish]
  dsimp only
  rw [get?_putOption (by decide), get?_putOption (by decide), Members.get?_putNew,
    if_neg (by decide), Members.get?_putNew, if_pos (by decide), Members.get?_putNew,
    if_neg (by decide)]
  rfl

theorem lt_expiry {lifespan : Nat} (alive : 0 < lifespan) {issued : Int}
    (early : issued < greatestTime) : issued < expiry lifespan issued := by
  simp only [expiry, greatestTime] at early ⊢
  omega

theorem expiry_greatestTime (lifespan : Nat) : expiry lifespan greatestTime = greatestTime := by
  simp only [expiry, greatestTime]
  omega

variable {issued : Number}

theorem issuedAt?_of_inside (held : (entries.get? "iat").getD (.int now) = .number issued)
    {value : Int} (whole : issued = .int value) (least : -2 ^ 63 ≤ value)
    (greatest : value < 2 ^ 63) : (issuedAt? entries).getD now = value := by
  subst whole
  cases present : entries.get? "iat" with
  | none =>
      rw [present] at held
      injection held with same
      injection same with same
      simp [issuedAt?, ClaimName.issuedAt, present, same]
  | some found =>
      obtain rfl : found = .number (.int value) := by simpa [present] using held
      have read : (Json.number (.int value)).int64? = some value := Json.int64?_int least greatest
      simp [issuedAt?, ClaimName.issuedAt, present, read]

theorem issuedAt?_of_outside (held : (entries.get? "iat").getD (.int now) = .number issued)
    (outside : ∀ value, issued = .int value → value < -2 ^ 63 ∨ 2 ^ 63 ≤ value) :
    (issuedAt? entries).getD now = now := by
  cases present : entries.get? "iat" with
  | none => simp [issuedAt?, ClaimName.issuedAt, present]
  | some found =>
      obtain rfl : found = .number issued := by simpa [present] using held
      simp [issuedAt?, ClaimName.issuedAt, present, Json.int64?_of_outside outside]

theorem expiresLater_iff (held : (entries.get? "iat").getD (.int now) = .number issued)
    (unexpiring : entries.get? "exp" = none) :
    (finish config now tokenId entries).ExpiresLater ↔
      issued.value < expiry config.lifespan ((issuedAt? entries).getD now) := by
  rw [ExpiresLater, get?_finish_issuedAt, get?_finish_expiresAt, held, unexpiring]
  constructor
  · rintro ⟨found, expiring, same, expires, later⟩
    obtain rfl : issued = found := by simpa using same
    obtain rfl : Number.int _ = expiring := by simpa [Json.int] using expires
    exact later
  · intro later
    exact ⟨issued, .int _, rfl, rfl, later⟩

theorem lt_expiry_iff {lifespan : Nat} (alive : 0 < lifespan) {value : Int}
    (greatest : value < 2 ^ 63) : value < expiry lifespan value ↔ value ≠ 2 ^ 63 - 1 := by
  constructor
  · rintro later rfl
    exact absurd (expiry_greatestTime lifespan) later.ne'
  · intro early
    refine lt_expiry alive ?_
    rw [greatestTime]
    omega

structure CountsExpiry (config : Config) (now : Int) (tokenId : String) (entries : Members Json)
    (issued : Number) : Prop where
  issuedAt : (finish config now tokenId entries).get? "iat" = some (.number issued)
  later_iff : (finish config now tokenId entries).ExpiresLater ↔
    issued.value < expiry config.lifespan ((issuedAt? entries).getD now)
  fromIssue : ∀ value : Int, issued = .int value → -2 ^ 63 ≤ value → value < 2 ^ 63 →
    (finish config now tokenId entries).get? "exp" =
        some (.int (min (value + min (config.lifespan : Int) (2 ^ 63 - 1)) (2 ^ 63 - 1))) ∧
      ((finish config now tokenId entries).ExpiresLater ↔ value ≠ 2 ^ 63 - 1)
  fromClock : (∀ value, issued = .int value → value < -2 ^ 63 ∨ 2 ^ 63 ≤ value) →
    (finish config now tokenId entries).get? "exp" =
        some (.int (min (now + min (config.lifespan : Int) (2 ^ 63 - 1)) (2 ^ 63 - 1))) ∧
      ((finish config now tokenId entries).ExpiresLater ↔
        issued.value < expiry config.lifespan now)

/-- Every number that claims may show as their issue time: an integer of 64 bits moves the expiry
with it, up to the greatest time, where the sum stops; beside any other number it counts from the
clock, and may come before that number. -/
theorem finish_countsExpiry (valid : config.validate = .ok ())
    (held : (entries.get? "iat").getD (.int now) = .number issued)
    (unexpiring : entries.get? "exp" = none) (tokenId : String) :
    CountsExpiry config now tokenId entries issued := by
  have later : (finish config now tokenId entries).ExpiresLater ↔ _ :=
    expiresLater_iff held unexpiring
  have expires := get?_finish_expiresAt config now tokenId entries
  rw [unexpiring] at expires
  refine ⟨?_, later, ?_, ?_⟩
  · rw [get?_finish_issuedAt, held]
  · intro value whole least greatest
    have alive := (Config.validate_eq_ok_iff.mp valid).lifespan
    rw [issuedAt?_of_inside held whole least greatest] at expires later
    refine ⟨expires, later.trans ?_⟩
    rw [whole, ← lt_expiry_iff alive greatest]
    exact Int.cast_lt
  · intro outside
    rw [issuedAt?_of_outside held outside] at expires later
    exact ⟨expires, later⟩

theorem finish_countsExpiry_backdated :
    Config.standard.validate = .ok () ∧
      (finish .standard 1700000000 "t" [("iat", .int (-60))]).get? "exp" = some (.int 240) ∧
      (finish .standard 1700000000 "t" [("iat", .int (-60))]).ExpiresLater ∧
      (finish .standard 1700000000 "t" [("iat", .int (2 ^ 64 - 1))]).get? "exp" =
        some (.int 1700000300) := by
  have backdated : CountsExpiry .standard 1700000000 "t" [("iat", .int (-60))] (.int (-60)) :=
    finish_countsExpiry rfl rfl rfl "t"
  have beyond : CountsExpiry .standard 1700000000 "t" [("iat", .int (2 ^ 64 - 1))]
      (.int (2 ^ 64 - 1)) := finish_countsExpiry rfl rfl rfl "t"
  obtain ⟨expires, later⟩ := backdated.fromIssue (-60) rfl (by decide) (by decide)
  have outside : ∀ value, Number.int (2 ^ 64 - 1) = .int value →
      value < -2 ^ 63 ∨ 2 ^ 63 ≤ value := by
    rintro value ⟨⟩
    exact .inr (by decide)
  exact ⟨rfl, expires, later.mpr (by decide), (beyond.fromClock outside).1⟩

structure ExpireEarly (entries : Members Json) : Prop where
  taken : (ClaimsBuilder.make .standard).call ⟨1700000000, 0⟩ (.object (.object entries)) =
    .ok ⟨.standard, entries⟩
  issued : ∃ number, entries.get? "iat" = some (.number number)
  unexpiring : entries.get? "exp" = none
  early : ¬ (finish .standard 1700000000 "t" entries).ExpiresLater

/-- Beside an issue time beyond the greatest one, or with a fraction of a second, the expiry counts
from the clock. -/
theorem expireEarly_unwhole :
    Config.standard.validate = .ok () ∧ ExpireEarly [("iat", .int (2 ^ 64 - 1))] ∧
      ExpireEarly [("iat", .number (.real ⟨false, 4000000001 * 2 ^ 21, -22⟩))] := by
  refine ⟨rfl, ⟨rfl, ⟨_, rfl⟩, rfl, ?_⟩, ⟨rfl, ⟨_, rfl⟩, rfl, ?_⟩⟩
  · have fromClock : expiry 300 ((issuedAt? [("iat", .int (2 ^ 64 - 1))]).getD 1700000000) =
        1700000300 := by decide
    rw [expiresLater_iff rfl rfl]
    exact not_lt.mpr (Int.cast_le.mpr (fromClock.le.trans (by decide)))
  · have fromClock : expiry 300 ((issuedAt? [("iat", .number (.real
        ⟨false, 4000000001 * 2 ^ 21, -22⟩))]).getD 1700000000) = 1700000300 := by decide
    have value : Number.value (.real ⟨false, 4000000001 * 2 ^ 21, -22⟩) = 2000000000.5 := by
      have ratio : Binary64.ratio ⟨false, 4000000001 * 2 ^ 21, -22⟩ =
          (4000000001 * 2 ^ 21, 2 ^ 22) := rfl
      rw [Number.value, Binary64.value, ratio]
      norm_num
    rw [expiresLater_iff rfl rfl, value]
    exact not_lt.mpr ((Int.cast_le.mpr fromClock.le).trans (by norm_num))

end Claims

end Jose
