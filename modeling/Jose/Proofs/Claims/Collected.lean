import Jose.Proofs.Claims.Item
import Jose.Proofs.Nested

/-!
Collecting claims. A row of calls writes what the calls bring, in order, or fails with the first
claim at fault; what is finished afterwards has names and values throughout, and every name once.
-/

namespace Jose

namespace Claims

structure AreClean (entries : Members Json) : Prop where
  distinct : entries.IsDistinct
  named : ∀ entry ∈ entries, entry.1 ≠ ""
  present : ∀ entry ∈ entries, entry.2 ≠ .null

variable {entries : Members Json}

theorem AreClean.put (clean : AreClean entries) {name : String} {value : Json}
    (named : name ≠ "") (present : value ≠ .null) : AreClean (entries.put name value) where
  distinct := clean.distinct.put name value
  named := by
    intro entry member
    rcases Members.mem_put member with rfl | before
    · exact named
    · exact clean.named entry before
  present := by
    intro entry member
    rcases Members.mem_put member with rfl | before
    · exact present
    · exact clean.present entry before

theorem AreClean.putAll {later : List (String × Json)} (clean : AreClean entries)
    (written : ∀ entry ∈ later, entry.1 ≠ "" ∧ entry.2 ≠ .null) :
    AreClean (entries.putAll later) := by
  induction later generalizing entries with
  | nil => exact clean
  | cons entry rest ih =>
      have first := written entry List.mem_cons_self
      exact ih (clean.put first.1 first.2) fun other member =>
        written other (List.mem_cons_of_mem _ member)

theorem AreClean.putNew (clean : AreClean entries) (name : String) (value : Json)
    (named : name ≠ "") (present : value ≠ .null) : AreClean (entries.putNew name value) := by
  rw [Members.putNew]
  split
  · exact clean
  · exact clean.put named present

theorem AreClean.putOption (clean : AreClean entries) {name : String} (named : name ≠ "")
    (value : Option String) : AreClean (putOption name value entries) := by
  cases value with
  | none => exact clean
  | some text => exact clean.putNew name (.text text) named (by simp)

/-- Whatever is added in the end has a name and a value, and is added where its name is free. -/
theorem finish_areClean (clean : AreClean entries) (config : Config) (now : Int)
    (tokenId : String) : AreClean (finish config now tokenId entries).entries := by
  have issued := clean.putNew ClaimName.issuedAt (.int now) (by decide) (by simp [Json.int])
  have expiring := issued.putNew ClaimName.expiresAt
    (.int (expiry config.lifespan ((issuedAt? entries).getD now))) (by decide) (by simp [Json.int])
  have identified := expiring.putNew ClaimName.tokenId (.text tokenId) (by decide) (by simp)
  exact (identified.putOption (by decide) config.issuer).putOption (by decide) config.audience

end Claims

namespace ClaimsBuilder

def calls (made : List (Instant × ClaimsCall)) (builder : ClaimsBuilder) :
    Except BuildError ClaimsBuilder :=
  made.foldlM (fun builder call => builder.call call.1 call.2) builder

def itemsOf (made : List (Instant × ClaimsCall)) : List ClaimItem :=
  made.flatMap fun call => call.2.items call.1

def writesOf (made : List (Instant × ClaimsCall)) : List (String × Json) :=
  (itemsOf made).filterMap ClaimItem.member?

theorem calls_eq_takeAll (made : List (Instant × ClaimsCall)) (builder : ClaimsBuilder) :
    builder.calls made = (ClaimItem.takeAll (itemsOf made)).map fun written =>
      { builder with entries := builder.entries.putAll written } := by
  induction made generalizing builder with
  | nil => rfl
  | cons call rest ih =>
      have items : itemsOf (call :: rest) = call.2.items call.1 ++ itemsOf rest := rfl
      have calls : builder.calls (call :: rest) =
          builder.call call.1 call.2 >>= fun next => next.calls rest := rfl
      simp only [calls, items, ClaimItem.takeAll_append, ClaimsCall.takeAll_items,
        ClaimsBuilder.call, ih]
      cases call.2.written call.1 with
      | error refused => rfl
      | ok written =>
          cases ClaimItem.takeAll (itemsOf rest) with
          | error refused => rfl
          | ok later =>
              simp [bind, Except.bind, Except.map, pure, Except.pure, Members.putAll_append]

theorem itemsOf_given (now : Instant) (members : List (String × Json)) :
    itemsOf (members.map fun member => (now, .claim member.1 (.json member.2))) =
      members.map fun member => .given member.1 (.json member.2) := by
  induction members with
  | nil => rfl
  | cons member rest ih => exact congrArg (_ :: ·) ih

theorem call_object (builder : ClaimsBuilder) (now : Instant) (members : List (String × Json)) :
    builder.call now (.object (.object members)) =
      builder.calls (members.map fun member => (now, .claim member.1 (.json member.2))) := by
  rw [calls_eq_takeAll, itemsOf_given, ClaimsCall.takeAll_given]
  rfl

section Delivery

structure DeliversClean (builder : ClaimsBuilder) : Prop where
  finished : ∀ around claims, (builder.finish around).outcome = .done claims →
    Claims.AreClean claims.entries
  signed : ∀ around signing, (builder.jws around).outcome = .done signing →
    Claims.AreClean signing.claims.entries ∧
      ∀ choices elsewhere token,
        ({ signing with choices }.sign elsewhere).outcome = .done token →
          ∃ second, token.segments[1]? = some second ∧
            Base64.decodeUrl second = .ok (Json.object signing.claims.entries).encode
  encrypted : ∀ around encryption, (builder.jwe around).outcome = .done encryption →
    ∃ claims, Claims.AreClean claims.entries ∧ encryption.payload = .claims claims ∧
      ∀ (key : Rsa.PrivateKey) choices elsewhere token, key.Unwraps →
        (encryption.config.resolveEncryption elsewhere.source choices.keyId).outcome =
          .done (.key (.rsa key.publicKey)) →
        ({ encryption with choices }.encrypt elsewhere).outcome = .done token →
          ∃ contentKey, Jwe.open? key token =
            some ⟨contentKey, (Json.object claims.entries).encode⟩

variable {builder : ClaimsBuilder}

theorem finish_areClean (clean : Claims.AreClean builder.entries) {around : Surroundings}
    {claims : Claims} (finished : (builder.finish around).outcome = .done claims) :
    Claims.AreClean claims.entries := by
  injection finished with same
  exact same ▸ Claims.finish_areClean clean _ _ _

theorem deliversClean (clean : Claims.AreClean builder.entries) : builder.DeliversClean where
  finished _ _ finished := finish_areClean clean finished
  signed := by
    intro around signing done
    obtain ⟨claims, finished, rfl⟩ := jws_eq_done_iff.mp done
    refine ⟨finish_areClean clean finished, ?_⟩
    intro choices elsewhere token signed
    exact Jws.sign_carries signed
  encrypted := by
    intro around encryption done
    obtain ⟨claims, finished, rfl⟩ := jwe_eq_done_iff.mp done
    refine ⟨claims, finish_areClean clean finished, rfl, ?_⟩
    intro key choices elsewhere token unwraps matching encrypted
    exact ⟨_, Jwe.open?_encrypt unwraps matching encrypted⟩

end Delivery

theorem writesOf_clean {made : List (Instant × ClaimsCall)}
    (sound : ∀ item ∈ itemsOf made, ¬ item.IsFaulty) :
    ∀ entry ∈ writesOf made, entry.1 ≠ "" ∧ entry.2 ≠ .null := by
  intro entry member
  obtain ⟨item, inside, written⟩ := List.mem_filterMap.mp member
  obtain ⟨call, _, brought⟩ := List.mem_flatMap.mp inside
  exact ClaimsCall.clean_of_items brought (sound item inside) written

structure Holds (config : Config) (made : List (Instant × ClaimsCall)) (builder : ClaimsBuilder) :
    Prop where
  config : builder.config = config
  names : builder.entries.names = ((writesOf made).map Prod.fst).eraseDups
  value : ∀ name, builder.entries.get? name = (writesOf made).reverse.lookup name
  clean : builder.DeliversClean

theorem holds_of_sound (config : Config) {made : List (Instant × ClaimsCall)}
    (sound : ∀ item ∈ itemsOf made, ¬ item.IsFaulty) :
    Holds config made ⟨config, Members.putAll (writesOf made) []⟩ where
  config := rfl
  names := Members.names_putAll_nil _
  value := by
    intro name
    rw [Members.get?_putAll]
    exact Option.or_none
  clean := by
    have empty : Claims.AreClean [] := ⟨List.nodup_nil, by simp, by simp⟩
    exact deliversClean (empty.putAll (writesOf_clean sound))

/-- Any row of calls fails with the error of its first item at fault, or else comes to the claims in
the order of their first writing, each with the value that was written last. What the builder then
delivers, finished or signed or encrypted, has a name for every claim, each name once, and no null.
-/
theorem calls_accumulate :
    (∀ config (made : List (Instant × ClaimsCall)),
      ((∃ error, (make config).calls made = .error error) ↔
          ∃ item ∈ itemsOf made, item.IsFaulty) ∧
        (∀ error, (make config).calls made = .error error →
          ClaimItem.IsFirstFault (itemsOf made) error) ∧
        ∀ builder, (make config).calls made = .ok builder → Holds config made builder) ∧
      ∀ (builder : ClaimsBuilder) now members,
        builder.call now (.object (.object members)) =
          builder.calls (members.map fun member => (now, .claim member.1 (.json member.2))) := by
  refine ⟨?_, call_object⟩
  intro config made
  have taken := ClaimItem.takeAll_isTaken (itemsOf made)
  rw [calls_eq_takeAll]
  generalize ClaimItem.takeAll (itemsOf made) = answer at taken ⊢
  cases taken with
  | refused first =>
      refine ⟨⟨fun _ => first.exists_faulty, fun _ => ⟨_, rfl⟩⟩, ?_, ?_⟩
      · intro error failed
        injection failed with same
        exact same ▸ first
      · intro builder done
        contradiction
  | held sound =>
      refine ⟨⟨?_, ?_⟩, ?_, ?_⟩
      · rintro ⟨error, failed⟩
        contradiction
      · rintro ⟨item, inside, faulty⟩
        exact absurd faulty (sound item inside)
      · intro error failed
        contradiction
      · intro builder done
        injection done with same
        exact same ▸ holds_of_sound config sound

def overwritten : List (Instant × ClaimsCall) :=
  [(⟨0, 0⟩, .claim "role" (.text "admin")), (⟨0, 0⟩, .subject "ada"),
    (⟨0, 0⟩, .object (.object [("role", .int 3)]))]

def interrupted : List (Instant × ClaimsCall) :=
  [(⟨0, 0⟩, .subject "ada"),
    (⟨0, 0⟩, .object (.object [("role", .int 3), ("team", .null), ("", .int 4)]))]

theorem calls_accumulate_overwritten :
    (∃ builder, (make .standard).calls overwritten = .ok builder ∧
      builder.entries.names = ["role", "sub"] ∧
      builder.entries.get? "role" = some (.int 3) ∧ builder.DeliversClean) ∧
      (make .standard).calls interrupted =
        .error (.invalidClaim "claim 'team' must not be null") ∧
      ClaimItem.IsFirstFault (itemsOf interrupted)
        (.invalidClaim "claim 'team' must not be null") := by
  obtain ⟨collected, _⟩ := calls_accumulate
  have accepted : (make .standard).calls overwritten =
      .ok ⟨.standard, [("role", .int 3), ("sub", .text "ada")]⟩ := rfl
  have refused : (make .standard).calls interrupted =
      .error (.invalidClaim "claim 'team' must not be null") := rfl
  have held := (collected .standard overwritten).2.2 _ accepted
  have written : ((writesOf overwritten).map Prod.fst).eraseDups = ["role", "sub"] := by decide
  refine ⟨⟨_, accepted, held.names.trans written, ?_, held.clean⟩, refused, ?_⟩
  · exact (held.value "role").trans rfl
  · exact (collected .standard interrupted).2.1 _ refused

end ClaimsBuilder

end Jose
