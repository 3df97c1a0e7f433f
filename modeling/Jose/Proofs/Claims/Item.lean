import Jose.Claims.Call

/-!
What the calls of a claims builder bring, one claim at a time. A claim from outside may be at fault,
and a row of claims ends at the first one that is.
-/

namespace Jose

namespace Datum

variable {name : String} {value : Datum}

theorem claimValue_unwritable (named : name ≠ "") {problem : DatumProblem}
    (refused : value.toJson = .error problem) :
    claimValue name value =
      .error (.invalidClaim ("claim '" ++ name ++ "': " ++ problem.message)) := by
  simp only [claimValue, if_neg named, refused]

theorem claimValue_null (named : name ≠ "") (written : value.toJson = .ok .null) :
    claimValue name value = .error (.invalidClaim ("claim '" ++ name ++ "' must not be null")) := by
  simp only [claimValue, if_neg named, written]

theorem claimValue_present (named : name ≠ "") {json : Json} (written : value.toJson = .ok json)
    (present : json ≠ .null) : claimValue name value = .ok json := by
  simp only [claimValue, if_neg named, written]

end Datum

inductive ClaimItem where
  | given (name : String) (value : Datum)
  | set (name : String) (value : Json)
  | notObject

def ClaimsCall.items (now : Instant) : ClaimsCall → List ClaimItem
  | claim name value => [.given name value]
  | object (.object members) => members.map fun member => .given member.1 (.json member.2)
  | object _ => [.notObject]
  | issuer text => [.set "iss" (.text text)]
  | subject text => [.set "sub" (.text text)]
  | audience text => [.set "aud" (.text text)]
  | audiences texts => [.set "aud" (.list (texts.map Json.text))]
  | issuedAt time => [.set "iat" (.int time.seconds)]
  | expiresAt time => [.set "exp" (.int time.seconds)]
  | expiresIn span => [.set "exp" (.int (now.shift span).seconds)]
  | notBefore time => [.set "nbf" (.int time.seconds)]
  | tokenId text => [.set "jti" (.text text)]

namespace ClaimItem

inductive Fault : ClaimItem → String → Prop
  | unnamed (value : Datum) : Fault (.given "" value) "claim name must not be empty"
  | unwritable {name : String} {value : Datum} {problem : DatumProblem} : name ≠ "" →
      value.toJson = .error problem →
      Fault (.given name value) ("claim '" ++ name ++ "': " ++ problem.message)
  | null {name : String} {value : Datum} : name ≠ "" → value.toJson = .ok .null →
      Fault (.given name value) ("claim '" ++ name ++ "' must not be null")
  | notObject : Fault .notObject "claims must be a JSON object"

def IsFaulty (item : ClaimItem) : Prop := ∃ reason, item.Fault reason

def IsFirstFault (items : List ClaimItem) (error : BuildError) : Prop :=
  ∃ before item after reason, items = before ++ item :: after ∧
    (∀ earlier ∈ before, ¬ earlier.IsFaulty) ∧ item.Fault reason ∧ error = .invalidClaim reason

def member? : ClaimItem → Option (String × Json)
  | given name value => value.toJson.toOption.map fun json => (name, json)
  | set name value => some (name, value)
  | notObject => none

def take : ClaimItem → Except BuildError (String × Json)
  | given name value => (Datum.claimValue name value).map fun json => (name, json)
  | set name value => .ok (name, value)
  | notObject => .error (.invalidClaim "claims must be a JSON object")

inductive Taken : ClaimItem → Except BuildError (String × Json) → Prop
  | held {item : ClaimItem} {entry : String × Json} : ¬ item.IsFaulty → item.member? = some entry →
      Taken item (.ok entry)
  | refused {item : ClaimItem} {reason : String} : item.Fault reason →
      Taken item (.error (.invalidClaim reason))

theorem given_isSound {name : String} {value : Datum} {json : Json} (named : name ≠ "")
    (written : value.toJson = .ok json) (present : json ≠ .null) :
    ¬ (ClaimItem.given name value).IsFaulty := by
  rintro ⟨reason, fault⟩
  cases fault with
  | unnamed _ => exact named rfl
  | unwritable _ failed => simp [written] at failed
  | null _ empty => exact present (by simpa [written] using empty)

theorem take_given (name : String) (value : Datum) :
    Taken (.given name value) (take (.given name value)) := by
  by_cases unnamed : name = ""
  · subst unnamed
    exact .refused (.unnamed value)
  · rw [take]
    cases written : value.toJson with
    | error problem =>
        rw [Datum.claimValue_unwritable unnamed written]
        exact .refused (.unwritable unnamed written)
    | ok json =>
        by_cases null : json = .null
        · subst null
          rw [Datum.claimValue_null unnamed written]
          exact .refused (.null unnamed written)
        · rw [Datum.claimValue_present unnamed written null]
          have sound := given_isSound unnamed written null
          exact .held sound (by simp [member?, written, Except.toOption])

theorem take_isTaken (item : ClaimItem) : Taken item item.take := by
  cases item with
  | given name value => exact take_given name value
  | set name value =>
      refine .held ?_ rfl
      rintro ⟨reason, fault⟩
      cases fault
  | notObject => exact .refused .notObject

def takeAll : List ClaimItem → Except BuildError (Members Json)
  | [] => .ok []
  | item :: rest => do
      let entry ← item.take
      let later ← takeAll rest
      return entry :: later

theorem takeAll_append (first later : List ClaimItem) :
    takeAll (first ++ later) = do
      let before ← takeAll first
      let after ← takeAll later
      return before ++ after := by
  induction first with
  | nil =>
      rw [List.nil_append]
      cases takeAll later <;> rfl
  | cons item rest ih =>
      simp only [List.cons_append, takeAll, ih]
      cases item.take with
      | error refused => rfl
      | ok entry =>
          cases takeAll rest with
          | error refused => rfl
          | ok before => cases takeAll later <;> rfl

inductive TakenAll : List ClaimItem → Except BuildError (Members Json) → Prop
  | held {items : List ClaimItem} : (∀ item ∈ items, ¬ item.IsFaulty) →
      TakenAll items (.ok (items.filterMap member?))
  | refused {items : List ClaimItem} {error : BuildError} : IsFirstFault items error →
      TakenAll items (.error error)

theorem takeAll_isTaken (items : List ClaimItem) : TakenAll items (takeAll items) := by
  induction items with
  | nil => exact .held (by simp)
  | cons item rest ih =>
      have first := item.take_isTaken
      simp only [takeAll]
      generalize item.take = answer at first ⊢
      cases first with
      | refused fault => exact .refused ⟨[], item, rest, _, rfl, by simp, fault, rfl⟩
      | held sound written =>
          generalize takeAll rest = later at ih ⊢
          cases ih with
          | held others =>
              have whole : TakenAll (item :: rest) (.ok ((item :: rest).filterMap member?)) := by
                refine .held ?_
                intro other member
                rcases List.mem_cons.mp member with rfl | inside
                · exact sound
                · exact others other inside
              rwa [List.filterMap_cons, written] at whole
          | refused fault =>
              obtain ⟨before, culprit, after, reason, rfl, earlier, found, rfl⟩ := fault
              refine .refused ⟨item :: before, culprit, after, reason, rfl, ?_, found, rfl⟩
              intro other member
              rcases List.mem_cons.mp member with rfl | inside
              · exact sound
              · exact earlier other inside

theorem IsFirstFault.exists_faulty {items : List ClaimItem} {error : BuildError}
    (first : IsFirstFault items error) : ∃ item ∈ items, item.IsFaulty := by
  obtain ⟨before, item, after, reason, rfl, _, fault, _⟩ := first
  exact ⟨item, by simp, reason, fault⟩

end ClaimItem

namespace ClaimsCall

theorem takeAll_given (members : List (String × Json)) :
    ClaimItem.takeAll (members.map fun member => .given member.1 (.json member.2)) =
      checked members := by
  induction members with
  | nil => rfl
  | cons member rest ih =>
      obtain ⟨name, value⟩ := member
      simp only [List.map_cons, ClaimItem.takeAll, ClaimItem.take, checked, ih]
      cases Datum.claimValue name (.json value) <;> rfl

theorem takeAll_items (now : Instant) (call : ClaimsCall) :
    ClaimItem.takeAll (call.items now) = call.written now := by
  cases call with
  | claim name value =>
      simp only [items, ClaimItem.takeAll, ClaimItem.take, written]
      cases Datum.claimValue name value <;> rfl
  | object value =>
      cases value with
      | object members => exact takeAll_given members
      | _ => rfl
  | _ => rfl

theorem set_of_items {now : Instant} {call : ClaimsCall} {name : String} {value : Json}
    (member : .set name value ∈ call.items now) : name ≠ "" ∧ value ≠ .null := by
  cases call with
  | claim given datum => simp [items] at member
  | object whole => cases whole <;> simp [items] at member
  | _ =>
      obtain ⟨rfl, rfl⟩ := by simpa [items] using member
      exact ⟨by decide, by simp [Json.int]⟩

theorem clean_of_items {now : Instant} {call : ClaimsCall} {item : ClaimItem}
    (member : item ∈ call.items now) (sound : ¬ item.IsFaulty) {entry : String × Json}
    (written : item.member? = some entry) : entry.1 ≠ "" ∧ entry.2 ≠ .null := by
  cases item with
  | given name value =>
      obtain ⟨json, held, rfl⟩ := Option.map_eq_some_iff.mp written
      have answer : value.toJson = .ok json := by
        cases outcome : value.toJson <;> simp_all [Except.toOption]
      have named : name ≠ "" := by
        rintro rfl
        exact sound ⟨_, .unnamed value⟩
      refine ⟨named, ?_⟩
      rintro rfl
      exact sound ⟨_, .null named answer⟩
  | set name value =>
      injection written with same
      exact same ▸ set_of_items member
  | notObject => contradiction

end ClaimsCall

end Jose
