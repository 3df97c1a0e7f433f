import Jose.Proofs.Claims.Collected
import Jose.Proofs.Claims.Expiry

/-!
Finishing adds exactly what is missing. The claims that were collected keep their values and their
places, and the defaults whose names were free follow them in a fixed order. Finished claims lack
nothing: a builder that takes them in delivers the same claims again.
-/

namespace Jose

namespace Members

variable {α : Type} {members added : Members α}

def missing (added : List (String × α)) (members : Members α) : Members α :=
  added.filter fun entry => !members.has entry.1

theorem missing_cons (entry : String × α) (rest : List (String × α)) (members : Members α) :
    members.missing (entry :: rest) = members.missing [entry] ++ members.missing rest := by
  simp only [missing, ← List.filter_append, List.singleton_append]

theorem missing_append {later : Members α} (apart : ∀ name ∈ added.names, name ∉ later.names) :
    (members ++ later).missing added = members.missing added := by
  refine List.filter_congr ?_
  intro entry inside
  have unlike := apart entry.1 (List.mem_map_of_mem inside)
  have same : (members ++ later).has entry.1 = members.has entry.1 := by
    rw [Bool.eq_iff_iff, has_eq_true_iff, has_eq_true_iff, names_append, List.mem_append]
    simp [unlike]
  rw [same]

theorem missing_eq_nil (complete : ∀ name ∈ added.names, name ∈ members.names) :
    members.missing added = [] := by
  rw [missing, List.filter_eq_nil_iff]
  intro entry inside
  have present := has_eq_true_iff.mpr (complete entry.1 (List.mem_map_of_mem inside))
  simp [present]

theorem mem_names_append_missing {name : String} (wanted : name ∈ added.names) :
    name ∈ (members ++ members.missing added).names := by
  rw [names_append, List.mem_append]
  by_cases present : name ∈ members.names
  · exact Or.inl present
  · obtain ⟨entry, inside, rfl⟩ := List.mem_map.mp wanted
    have free : members.has entry.1 = false := by
      rw [← Bool.not_eq_true, has_eq_true_iff]
      exact present
    exact Or.inr (List.mem_map_of_mem (List.mem_filter.mpr ⟨inside, by simp [free]⟩))

theorem putNew_eq_append (name : String) (value : α) (members : Members α) :
    members.putNew name value = members ++ members.missing [(name, value)] := by
  by_cases present : members.has name = true
  · simp [putNew, missing, present]
  · have fresh : name ∉ members.names := mt has_eq_true_iff.mpr present
    simp [putNew, missing, present, put_fresh fresh]

def putAllNew (added : List (String × α)) (members : Members α) : Members α :=
  added.foldl (fun members entry => members.putNew entry.1 entry.2) members

theorem putAllNew_eq_append (distinct : added.IsDistinct) (members : Members α) :
    members.putAllNew added = members ++ members.missing added := by
  induction added generalizing members with
  | nil => exact (List.append_nil members).symm
  | cons entry rest ih =>
      obtain ⟨fresh, distinct⟩ := List.nodup_cons.mp distinct
      have apart : ∀ name ∈ names rest, name ∉ (members.missing [entry]).names := by
        intro name inside taken
        obtain ⟨other, kept, rfl⟩ := List.mem_map.mp taken
        obtain rfl := List.mem_singleton.mp (List.mem_filter.mp kept).1
        exact fresh inside
      calc members.putAllNew (entry :: rest)
          = (members.putNew entry.1 entry.2).putAllNew rest := rfl
        _ = (members ++ members.missing [entry]) ++
              (members ++ members.missing [entry]).missing rest := by
            rw [ih distinct, putNew_eq_append]
        _ = members ++ members.missing (entry :: rest) := by
            rw [missing_append apart, List.append_assoc, ← missing_cons]

theorem putAll_eq_append {later : Members α} (distinct : (members ++ later).IsDistinct) :
    members.putAll later = members ++ later := by
  induction later generalizing members with
  | nil => exact (List.append_nil members).symm
  | cons entry rest ih =>
      have fresh : entry.1 ∉ members.names := by
        rw [IsDistinct, names_append, names_cons, List.nodup_append] at distinct
        intro present
        exact distinct.2.2 entry.1 present entry.1 List.mem_cons_self rfl
      have first : members.putAll (entry :: rest) = (members.put entry.1 entry.2).putAll rest := rfl
      have moved : (members ++ [entry]) ++ rest = members ++ entry :: rest := by simp
      rw [first, put_fresh fresh, ih (moved ▸ distinct), moved]

end Members

namespace Claims

def defaults (config : Config) (now expiring : Int) (tokenId : String) : Members Json :=
  [("iat", .int now), ("exp", .int expiring), ("jti", .text tokenId)] ++
    optionalMember "iss" config.issuer ++ optionalMember "aud" config.audience

variable {config : Config} {now : Int} {tokenId : String} {entries : Members Json}

theorem defaults_isDistinct (config : Config) (now expiring : Int) (tokenId : String) :
    (defaults config now expiring tokenId).IsDistinct := by
  rw [Members.IsDistinct]
  cases issuer : config.issuer <;> cases audience : config.audience <;>
    simp [defaults, Members.names, optionalMember, issuer, audience]

/-- The values of the defaults change from one time to another, their names do not. -/
theorem names_defaults (config : Config) (now expiring later expiringLater : Int)
    (tokenId tokenIdLater : String) :
    (defaults config now expiring tokenId).names =
      (defaults config later expiringLater tokenIdLater).names := by
  simp [defaults]

theorem finish_entries (config : Config) (now : Int) (tokenId : String) (entries : Members Json) :
    (finish config now tokenId entries).entries = entries ++ entries.missing
      (defaults config now (expiry config.lifespan ((issuedAt? entries).getD now)) tokenId) := by
  rw [← Members.putAllNew_eq_append (defaults_isDistinct config now _ tokenId)]
  simp only [finish, defaults]
  cases config.issuer <;> cases config.audience <;> rfl

theorem finish_finished (config : Config) (now : Int) (tokenId : String) (entries : Members Json)
    (later : Int) (laterId : String) :
    finish config later laterId (finish config now tokenId entries).entries =
      finish config now tokenId entries := by
  have complete : ∀ expiringLater, ∀ name ∈ (defaults config later expiringLater laterId).names,
      name ∈ (finish config now tokenId entries).entries.names := by
    intro expiringLater name wanted
    rw [finish_entries]
    exact Members.mem_names_append_missing
      (names_defaults config later expiringLater now _ laterId tokenId ▸ wanted)
  have same := finish_entries config later laterId (finish config now tokenId entries).entries
  rw [Members.missing_eq_nil (complete _), List.append_nil] at same
  exact congrArg Claims.mk same

structure IsCompletion (config : Config) (now expiring : Int) (tokenId : String)
    (entries : Members Json) (finished : Claims) : Prop where
  whole : finished.entries = entries ++ entries.missing (defaults config now expiring tokenId)
  fromIssue : ∀ issued : Int, finished.get? "iat" = some (.int issued) →
    -2 ^ 63 ≤ issued → issued < 2 ^ 63 →
      expiring = min (issued + min (config.lifespan : Int) (2 ^ 63 - 1)) (2 ^ 63 - 1)
  fromClock : ∀ held, finished.get? "iat" = some held → held.int64? = none →
    expiring = min (now + min (config.lifespan : Int) (2 ^ 63 - 1)) (2 ^ 63 - 1)
  later : entries.get? "iat" = none →
    finished.get? "iat" = some (.int now) ∧ now < expiring

theorem issuedAt?_of_finish {issued : Int}
    (shown : (finish config now tokenId entries).get? "iat" = some (.int issued))
    (least : -2 ^ 63 ≤ issued) (greatest : issued < 2 ^ 63) :
    (issuedAt? entries).getD now = issued := by
  rw [get?_finish_issuedAt] at shown
  cases held : entries.get? "iat" with
  | none =>
      obtain rfl : now = issued := by simpa [held, Json.int] using shown
      simp [issuedAt?, ClaimName.issuedAt, held]
  | some value =>
      obtain rfl : value = .int issued := by simpa [held] using shown
      simp [issuedAt?, ClaimName.issuedAt, held, Json.int64?_int least greatest]

theorem finish_isCompletion (alive : 0 < config.lifespan)
    (clock : -2 ^ 63 ≤ now ∧ now < 2 ^ 63 - 1) (tokenId : String) (entries : Members Json) :
    IsCompletion config now (expiry config.lifespan ((issuedAt? entries).getD now)) tokenId entries
      (finish config now tokenId entries) where
  whole := finish_entries config now tokenId entries
  fromIssue := by
    intro issued shown least greatest
    rw [issuedAt?_of_finish shown least greatest]
    rfl
  fromClock := by
    intro held shown unwhole
    rw [get?_finish_issuedAt] at shown
    cases present : entries.get? "iat" with
    | none =>
        obtain rfl : Json.int now = held := by simpa [present] using shown
        rw [Json.int64?_int clock.1 (by omega)] at unwhole
        contradiction
    | some value =>
        obtain rfl : value = held := by simpa [present] using shown
        simp [issuedAt?, ClaimName.issuedAt, present, unwhole, expiry, greatestTime]
  later := by
    intro absent
    have fromNow : (issuedAt? entries).getD now = now := by
      simp [issuedAt?, ClaimName.issuedAt, absent]
    refine ⟨by rw [get?_finish_issuedAt, absent]; rfl, ?_⟩
    rw [fromNow]
    exact lt_expiry alive (by rw [greatestTime]; omega)

end Claims

theorem ClaimsCall.checked_of_present {entries : Members Json}
    (present : ∀ entry ∈ entries, entry.1 ≠ "" ∧ entry.2 ≠ .null) :
    checked entries = .ok entries := by
  induction entries with
  | nil => rfl
  | cons entry rest ih =>
      obtain ⟨name, value⟩ := entry
      have first := present (name, value) List.mem_cons_self
      have others := ih fun entry inside => present entry (List.mem_cons_of_mem _ inside)
      have taken : Datum.claimValue name (.json value) = .ok value :=
        Datum.claimValue_present first.1 (by rw [Datum.toJson]) first.2
      simp only [checked, taken, others, bind, Except.bind, pure, Except.pure]

namespace ClaimsBuilder

variable {config : Config} {builder : ClaimsBuilder}

theorem calls_areClean {made : List (Instant × ClaimsCall)}
    (collected : (make config).calls made = .ok builder) :
    builder.config = config ∧ Claims.AreClean builder.entries := by
  have empty : Claims.AreClean [] := ⟨List.nodup_nil, by simp, by simp⟩
  have taken := ClaimItem.takeAll_isTaken (itemsOf made)
  rw [calls_eq_takeAll] at collected
  generalize ClaimItem.takeAll (itemsOf made) = answer at taken collected
  cases taken with
  | refused first => contradiction
  | held sound =>
      injection collected with same
      exact same ▸ ⟨rfl, empty.putAll (writesOf_clean sound)⟩

theorem call_object_ofClean {entries : Members Json} (clean : Claims.AreClean entries)
    (now : Instant) :
    (make config).call now (.object (.object entries)) = .ok ⟨config, entries⟩ := by
  have taken : ClaimsCall.checked entries = .ok entries :=
    ClaimsCall.checked_of_present fun entry inside =>
      ⟨clean.named entry inside, clean.present entry inside⟩
  have written : Members.putAll entries [] = entries := Members.putAll_eq_append clean.distinct
  simp only [call, ClaimsCall.written, taken, Except.map, make, written]

structure ExitsWith (builder : ClaimsBuilder) (finished : Claims) (around : Surroundings) :
    Prop where
  claims : builder.finish around = ⟨[.event (.finalizedClaims finished.size)], .done finished⟩
  signing : builder.jws around =
    ⟨[.event (.finalizedClaims finished.size)], .done ⟨builder.config, finished, .blank⟩⟩
  encrypting : builder.jwe around =
    ⟨[.event (.finalizedClaims finished.size)], .done ⟨builder.config, .claims finished, .blank⟩⟩

theorem exitsWith_finish (around : Surroundings) (builder : ClaimsBuilder) :
    builder.ExitsWith (Claims.finish builder.config around.now.seconds
      (Uuid.random around.entropy.tokenId) builder.entries) around :=
  ⟨rfl, rfl, rfl⟩

/-- Finishing keeps the collected entries as they are and puts the missing defaults behind them, the
expiry counted from the issue time, or from the clock where that is no such number. The three ways
on from the claims hand over the same set, and finishing it again changes nothing. -/
theorem finishes_exactly (valid : config.validate = .ok ()) {made : List (Instant × ClaimsCall)}
    (collected : (make config).calls made = .ok builder) {now : Instant}
    (clock : Instant.earliest.seconds ≤ now.seconds ∧ now.seconds ≤ Instant.latest.seconds)
    (random : Noise) :
    ∃ finished expiring,
      Claims.IsCompletion config now.seconds expiring (Uuid.random random) builder.entries
        finished ∧
      (∀ around, around.now = now → around.entropy.tokenId = random →
        builder.ExitsWith finished around) ∧
      ∀ later : Instant, ∃ next,
        (make config).call later (.object finished.toJson) = .ok next ∧
          ∀ around, next.ExitsWith finished around := by
  obtain ⟨rfl, clean⟩ := calls_areClean collected
  have alive := (Config.validate_eq_ok_iff.mp valid).lifespan
  have bounded : -2 ^ 63 ≤ now.seconds ∧ now.seconds < 2 ^ 63 - 1 := by
    simp only [Instant.earliest, Instant.latest] at clock
    omega
  refine ⟨_, _, Claims.finish_isCompletion alive bounded _ _, ?_, ?_⟩
  · rintro around rfl rfl
    exact exitsWith_finish around builder
  · intro later
    have again := Claims.finish_areClean clean builder.config now.seconds (Uuid.random random)
    refine ⟨_, call_object_ofClean again later, ?_⟩
    intro around
    have same := Claims.finish_finished builder.config now.seconds (Uuid.random random)
      builder.entries around.now.seconds (Uuid.random around.entropy.tokenId)
    have exits := exitsWith_finish around ⟨builder.config, (Claims.finish builder.config
      now.seconds (Uuid.random random) builder.entries).entries⟩
    rwa [same] at exits

def signposted : Config :=
  { Config.standard with issuer := some "desk", audience := some "hall" }

def addressed : List (Instant × ClaimsCall) :=
  [(⟨1700000000, 0⟩, .audience "door"), (⟨1700000001, 0⟩, .subject "ada")]

theorem finishes_exactly_addressed :
    ∃ builder finished next, (make signposted).calls addressed = .ok builder ∧
      finished.entries = [("aud", .text "door"), ("sub", .text "ada"), ("iat", .int 1700000002),
        ("exp", .int 1700000302), ("jti", .text (Uuid.random Surroundings.still.entropy.tokenId)),
        ("iss", .text "desk")] ∧
      builder.ExitsWith finished { Surroundings.still with now := ⟨1700000002, 0⟩ } ∧
      (make signposted).call ⟨1700000009, 0⟩ (.object finished.toJson) = .ok next ∧
      next.ExitsWith finished { Surroundings.still with now := ⟨1700000009, 0⟩ } := by
  have collected : (make signposted).calls addressed =
      .ok ⟨signposted, [("aud", .text "door"), ("sub", .text "ada")]⟩ := rfl
  obtain ⟨finished, expiring, completion, exits, again⟩ :=
    @finishes_exactly signposted _ rfl addressed collected ⟨1700000002, 0⟩ (by decide)
      Surroundings.still.entropy.tokenId
  obtain ⟨issued, _⟩ := completion.later rfl
  obtain rfl := completion.fromIssue _ issued (by decide) (by decide)
  obtain ⟨next, taken, sameExits⟩ := again ⟨1700000009, 0⟩
  exact ⟨_, finished, next, collected, completion.whole, exits _ rfl rfl, taken, sameExits _⟩

end ClaimsBuilder

end Jose
