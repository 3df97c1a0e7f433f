import Jose.Builder
import Jose.Proofs.Claims.Datum
import Jose.Proofs.Jws

/-!
Claims are carried unchanged. Whatever calls a builder has gone through, its claims are an object
that holds every name once, and such an object is read back from the payload of a token.
-/

namespace Jose

namespace Datum

theorem claimValue_isDistinct {name : String} {datum : Datum} (distinct : datum.IsDistinct)
    {value : Json} (accepted : claimValue name datum = .ok value) : value.IsDistinct := by
  by_cases unnamed : name = ""
  · simp [claimValue, unnamed] at accepted
  · cases found : datum.toJson with
    | error problem => simp [claimValue, unnamed, found] at accepted
    | ok held =>
        have plain := toJson_isDistinct datum distinct held found
        cases held with
        | null => simp [claimValue, unnamed, found] at accepted
        | _ =>
            simp only [claimValue, unnamed, found, if_false] at accepted
            injection accepted with same
            exact same ▸ plain

end Datum

namespace ClaimsCall

def IsDistinct : ClaimsCall → Prop
  | .claim _ value => value.IsDistinct
  | .object value => value.IsDistinct
  | _ => True

theorem checked_holdDistinct {members : List (String × Json)}
    (distinct : Json.HoldDistinct members) {written : Members Json}
    (accepted : checked members = .ok written) : Json.HoldDistinct written := by
  induction members generalizing written with
  | nil =>
      injection accepted with same
      exact same ▸ trivial
  | cons member rest ih =>
      obtain ⟨name, value⟩ := member
      have plain : Datum.IsDistinct (.json value) := distinct.1
      cases first : Datum.claimValue name (.json value) with
      | error refused => simp [checked, first, bind, Except.bind] at accepted
      | ok held =>
          cases later : checked rest with
          | error refused => simp [checked, first, later, bind, Except.bind] at accepted
          | ok others =>
              simp only [checked, first, later, bind, Except.bind, pure, Except.pure] at accepted
              injection accepted with same
              exact same ▸ ⟨Datum.claimValue_isDistinct plain first, ih distinct.2 later⟩

theorem texts_areDistinct (texts : List String) : Json.AreDistinct (texts.map Json.text) := by
  induction texts with
  | nil => trivial
  | cons text rest ih => exact ⟨trivial, ih⟩

theorem written_holdDistinct {call : ClaimsCall} (distinct : call.IsDistinct) {now : Instant}
    {members : Members Json} (written : call.written now = .ok members) :
    Json.HoldDistinct members := by
  cases call with
  | claim name value =>
      cases held : Datum.claimValue name value with
      | error refused => simp [ClaimsCall.written, held, Except.map] at written
      | ok json =>
          simp only [ClaimsCall.written, held, Except.map] at written
          injection written with same
          exact same ▸ ⟨Datum.claimValue_isDistinct distinct held, trivial⟩
  | object value =>
      cases value with
      | object present => exact checked_holdDistinct distinct.2 written
      | _ => simp [ClaimsCall.written] at written
  | audiences texts =>
      injection written with same
      exact same ▸ ⟨texts_areDistinct texts, trivial⟩
  | _ =>
      injection written with same
      exact same ▸ ⟨trivial, trivial⟩

end ClaimsCall

namespace ClaimsBuilder

inductive IsCollected (config : Config) : ClaimsBuilder → Prop
  | made : IsCollected config (.make config)
  | called {builder next : ClaimsBuilder} {now : Instant} {call : ClaimsCall} :
      IsCollected config builder → call.IsDistinct → builder.call now call = .ok next →
      IsCollected config next

theorem call_isDistinct {builder next : ClaimsBuilder} {now : Instant} {call : ClaimsCall}
    (distinct : (Json.object builder.entries).IsDistinct) (plain : call.IsDistinct)
    (called : builder.call now call = .ok next) : (Json.object next.entries).IsDistinct := by
  cases members : call.written now with
  | error refused => simp [ClaimsBuilder.call, members, Except.map] at called
  | ok written =>
      simp only [ClaimsBuilder.call, members, Except.map] at called
      injection called with same
      exact same ▸ distinct.putAll (ClaimsCall.written_holdDistinct plain members)

theorem IsCollected.isDistinct {config : Config} {builder : ClaimsBuilder}
    (collected : IsCollected config builder) : (Json.object builder.entries).IsDistinct := by
  induction collected with
  | made => exact ⟨List.nodup_nil, trivial⟩
  | called _ plain called ih => exact call_isDistinct ih plain called

end ClaimsBuilder

namespace Claims

theorem putOption_isDistinct {entries : Members Json}
    (distinct : (Json.object entries).IsDistinct) (name : String) (value : Option String) :
    (Json.object (putOption name value entries)).IsDistinct := by
  cases value with
  | none => exact distinct
  | some text =>
      have plain : (Json.text text).IsDistinct := trivial
      exact distinct.putNew name plain

theorem finish_isDistinct {entries : Members Json} (distinct : (Json.object entries).IsDistinct)
    (config : Config) (now : Int) (tokenId : String) :
    (finish config now tokenId entries).toJson.IsDistinct := by
  have number : ∀ value, (Json.int value).IsDistinct := fun _ => trivial
  have text : (Json.text tokenId).IsDistinct := trivial
  have three := ((distinct.putNew ClaimName.issuedAt (number now)).putNew ClaimName.expiresAt
    (number (expiry config.lifespan ((issuedAt? entries).getD now)))).putNew ClaimName.tokenId text
  exact putOption_isDistinct (putOption_isDistinct three _ _) _ _

end Claims

theorem ClaimsBuilder.finish_isDistinct {config : Config} {builder : ClaimsBuilder}
    (collected : IsCollected config builder) {around : Surroundings} {claims : Claims}
    (finished : (builder.finish around).outcome = .done claims) : claims.toJson.IsDistinct := by
  simp only [ClaimsBuilder.finish, Build.bind_eq_done, Build.outcome_report,
    Build.outcome_pure] at finished
  obtain ⟨_, _, same⟩ := finished
  injection same with same
  exact same ▸ Claims.finish_isDistinct collected.isDistinct _ _ _

structure Claims.IsReadBack (claims : Claims) : Prop where
  payload : Json.decode claims.payload = .ok claims.toJson
  token : ∀ config source choices token,
    (Jws.sign config source claims choices).outcome = .done token →
    ∃ first second third octets, token.segments = [first, second, third] ∧
      Base64.decodeUrl second = .ok octets ∧ Json.decode octets = .ok claims.toJson

theorem Claims.isReadBack {claims : Claims} (whole : claims.toJson.IsWhole)
    (distinct : claims.toJson.IsDistinct) (shallow : claims.toJson.depth ≤ Json.depthLimit) :
    claims.IsReadBack := by
  have decoded : Json.decode claims.payload = .ok claims.toJson :=
    Json.decode_encode whole distinct shallow
  refine ⟨decoded, ?_⟩
  intro config source choices token signed
  obtain ⟨_, signer, octets, _, _, _, rfl⟩ := Jws.sign_eq_done_iff.mp signed
  exact ⟨_, _, _, claims.payload, Token.segments_ofSegments (by simp [Jws.contents]),
    Base64.decodeUrl_encodeUrl _, decoded⟩

def Claims.outermost : Claims :=
  ⟨[("least", .int (-(2 ^ 63))), ("greatest", .int (2 ^ 64 - 1)),
    ("\"\\\n☃", .list [.null, .bool true, .object [("inner", .text "\x01")]])]⟩

end Jose
