import Jose.Proofs.Builder
import Jose.Proofs.Nested
import Jose.Proofs.Warning

/-!
Chains of moves. A builder that started with an issuer stands at one of three stages, and its chain
of moves falls into parts: calls that collect claims, then choices for the signature, then choices
for the encryption. What was chosen at one stage is not known at the next.
-/

namespace Jose

abbrev Chain := List (Surroundings × Move)

namespace Move

def keyId? : Move → Option String
  | .keyId asked => some asked
  | _ => none

def algorithm? : Move → Option SignatureAlgorithm
  | .algorithm asked => some asked
  | _ => none

def contentAlgorithm? : Move → Option ContentAlgorithm
  | .contentAlgorithm asked => some asked
  | _ => none

def isCall : Move → Bool
  | .call _ => true
  | _ => false

def setsSigning : Move → Bool
  | .keyId _ | .algorithm _ => true
  | _ => false

def setsEncryption : Move → Bool
  | .keyId _ | .contentAlgorithm _ => true
  | _ => false

def encrypts : Move → Bool
  | .encrypt | .encryptLater _ => true
  | _ => false

end Move

def Chain.lastSet {α : Type} (read : Move → Option α) (chain : Chain) : Option α :=
  (chain.filterMap fun step => read step.2).getLast?

@[simp] theorem Chain.lastSet_nil {α : Type} (read : Move → Option α) :
    Chain.lastSet read [] = none := rfl

@[simp] theorem Chain.lastSet_snoc {α : Type} (read : Move → Option α) (chain : Chain)
    (around : Surroundings) (move : Move) :
    Chain.lastSet read (chain ++ [(around, move)]) = (read move).or (Chain.lastSet read chain) := by
  cases answer : read move <;> simp [Chain.lastSet, answer]

theorem Chain.lastSet_eq_none {α : Type} {read : Move → Option α} {chain : Chain}
    (unset : ∀ step ∈ chain, read step.2 = none) : Chain.lastSet read chain = none := by
  rw [Chain.lastSet, List.getLast?_eq_none_iff, List.filterMap_eq_nil_iff]
  exact unset

namespace Builder

def next? (around : Surroundings) (move : Move) (builder : Builder) : Option Builder :=
  (builder.move? around move).bind fun progress =>
    match progress.outcome with
    | .done (.builder made) => some made
    | _ => none

def token? (around : Surroundings) (move : Move) (builder : Builder) : Option Token :=
  (builder.move? around move).bind fun progress =>
    match progress.outcome with
    | .done (.token token) => some token
    | _ => none

def after? (builder : Builder) (chain : Chain) : Option Builder :=
  chain.foldlM (fun standing step => standing.next? step.1 step.2) builder

variable {builder made : Builder} {around : Surroundings} {move : Move} {token : Token}

theorem next?_eq_some_iff :
    builder.next? around move = some made ↔
      ∃ progress, builder.move? around move = some progress ∧
        progress.outcome = .done (.builder made) := by
  simp only [next?, Option.bind_eq_some_iff]
  refine exists_congr fun progress => and_congr_right fun _ => ?_
  split
  · next found => simp [found]
  · next other =>
      simp only [reduceCtorEq, false_iff]
      exact other made

theorem token?_eq_some_iff :
    builder.token? around move = some token ↔
      ∃ progress, builder.move? around move = some progress ∧
        progress.outcome = .done (.token token) := by
  simp only [token?, Option.bind_eq_some_iff]
  refine exists_congr fun progress => and_congr_right fun _ => ?_
  split
  · next found => simp [found]
  · next other =>
      simp only [reduceCtorEq, false_iff]
      exact other token

theorem after?_snoc {chain : Chain} :
    builder.after? (chain ++ [(around, move)]) = some made ↔
      ∃ standing, builder.after? chain = some standing ∧
        standing.next? around move = some made := by
  simp [after?, List.foldlM_append, Option.bind_eq_some_iff]

end Builder

section Inversion

variable {around : Surroundings} {move : Move} {made : Builder} {token : Token}

/-- What a builder that collects claims may become. -/
theorem ClaimsBuilder.next?_cases {builder : ClaimsBuilder}
    (moved : (Builder.claims builder).next? around move = some made) :
    (∃ call next, move = .call call ∧ builder.call around.now call = .ok next ∧
      made = .claims next) ∨
    (∃ claims, move = .jws ∧ (builder.finish around).outcome = .done claims ∧
      made = .jws ⟨builder.config, claims, .blank⟩) ∨
    (∃ claims, move = .jwe ∧ (builder.finish around).outcome = .done claims ∧
      made = .jwe ⟨builder.config, .claims claims, .blank⟩) ∨
    ∃ claims signed, move = .innerSign ∧ (builder.finish around).outcome = .done claims ∧
      (Jws.sign builder.config around.source claims .blank).outcome = .done signed ∧
      made = .jwe ⟨builder.config, .nested signed, .blank⟩ := by
  obtain ⟨progress, moved, done⟩ := Builder.next?_eq_some_iff.mp moved
  cases move with
  | call call =>
      obtain rfl := Option.some.inj moved
      simp only [Build.bind_eq_done, Build.outcome_ofExcept_eq_done, Build.outcome_pure,
        Outcome.done.injEq, Progress.builder.injEq] at done
      obtain ⟨next, called, rfl⟩ := done
      exact .inl ⟨call, next, rfl, called, rfl⟩
  | jws =>
      obtain rfl := Option.some.inj moved
      simp only [Build.bind_eq_done, ClaimsBuilder.jws_eq_done_iff, Build.outcome_pure,
        Outcome.done.injEq, Progress.builder.injEq] at done
      obtain ⟨_, ⟨claims, finished, rfl⟩, rfl⟩ := done
      exact .inr (.inl ⟨claims, rfl, finished, rfl⟩)
  | jwe =>
      obtain rfl := Option.some.inj moved
      simp only [Build.bind_eq_done, ClaimsBuilder.jwe_eq_done_iff, Build.outcome_pure,
        Outcome.done.injEq, Progress.builder.injEq] at done
      obtain ⟨_, ⟨claims, finished, rfl⟩, rfl⟩ := done
      exact .inr (.inr (.inl ⟨claims, rfl, finished, rfl⟩))
  | innerSign =>
      obtain rfl := Option.some.inj moved
      simp only [Build.bind_eq_done, ClaimsBuilder.jws_eq_done_iff, JwsBuilder.innerSign,
        Build.outcome_pure, Outcome.done.injEq, Progress.builder.injEq] at done
      obtain ⟨_, ⟨claims, finished, rfl⟩, _, ⟨signed, sign, rfl⟩, rfl⟩ := done
      exact .inr (.inr (.inr ⟨claims, signed, rfl, finished, sign, rfl⟩))
  | finish | sign | encrypt =>
      obtain rfl := Option.some.inj moved
      simp [Build.bind_eq_done] at done
  | _ => contradiction

theorem JwsBuilder.next?_cases {builder : JwsBuilder}
    (moved : (Builder.jws builder).next? around move = some made) :
    (∃ keyId, move = .keyId keyId ∧ made = .jws (builder.keyId keyId)) ∨
    (∃ algorithm, move = .algorithm algorithm ∧ made = .jws (builder.algorithm algorithm)) ∨
    ∃ signed, move = .innerSign ∧
      (Jws.sign builder.config around.source builder.claims builder.choices).outcome =
        .done signed ∧
      made = .jwe ⟨builder.config, .nested signed, .blank⟩ := by
  obtain ⟨progress, moved, done⟩ := Builder.next?_eq_some_iff.mp moved
  cases move with
  | keyId keyId =>
      obtain rfl := Option.some.inj moved
      obtain rfl := Progress.builder.inj (Outcome.done.inj done)
      exact .inl ⟨keyId, rfl, rfl⟩
  | algorithm algorithm =>
      obtain rfl := Option.some.inj moved
      obtain rfl := Progress.builder.inj (Outcome.done.inj done)
      exact .inr (.inl ⟨algorithm, rfl, rfl⟩)
  | innerSign =>
      obtain rfl := Option.some.inj moved
      simp only [Build.bind_eq_done, JwsBuilder.innerSign, Build.outcome_pure,
        Outcome.done.injEq, Progress.builder.injEq] at done
      obtain ⟨_, ⟨signed, sign, rfl⟩, rfl⟩ := done
      exact .inr (.inr ⟨signed, rfl, sign, rfl⟩)
  | sign | signLater =>
      obtain rfl := Option.some.inj moved
      simp [Build.bind_eq_done] at done
  | _ => contradiction

theorem JweBuilder.next?_cases {builder : JweBuilder}
    (moved : (Builder.jwe builder).next? around move = some made) :
    (∃ keyId, move = .keyId keyId ∧ made = .jwe (builder.keyId keyId)) ∨
    ∃ algorithm, move = .contentAlgorithm algorithm ∧
      made = .jwe (builder.contentAlgorithm algorithm) := by
  obtain ⟨progress, moved, done⟩ := Builder.next?_eq_some_iff.mp moved
  cases move with
  | keyId keyId =>
      obtain rfl := Option.some.inj moved
      obtain rfl := Progress.builder.inj (Outcome.done.inj done)
      exact .inl ⟨keyId, rfl, rfl⟩
  | contentAlgorithm algorithm =>
      obtain rfl := Option.some.inj moved
      obtain rfl := Progress.builder.inj (Outcome.done.inj done)
      exact .inr ⟨algorithm, rfl, rfl⟩
  | encrypt | encryptLater =>
      obtain rfl := Option.some.inj moved
      simp [Build.bind_eq_done] at done
  | _ => contradiction

theorem ClaimsBuilder.token?_encrypts {builder : ClaimsBuilder} (encrypts : move.encrypts = true)
    (made : (Builder.claims builder).token? around move = some token) :
    ∃ claims, move = .encrypt ∧ (builder.finish around).outcome = .done claims ∧
      (Jwe.encrypt builder.config around.source around.entropy claims.payload false
        .blank).outcome = .done token := by
  obtain ⟨progress, moved, done⟩ := Builder.token?_eq_some_iff.mp made
  cases move with
  | encrypt =>
      obtain rfl := Option.some.inj moved
      simp only [Build.bind_eq_done, ClaimsBuilder.jwe_eq_done_iff, Build.outcome_pure,
        Outcome.done.injEq, Progress.token.injEq] at done
      obtain ⟨_, ⟨claims, finished, rfl⟩, _, encrypted, rfl⟩ := done
      exact ⟨claims, rfl, finished, encrypted⟩
  | _ => contradiction

theorem JweBuilder.token?_encrypts {builder : JweBuilder} (encrypts : move.encrypts = true)
    (made : (Builder.jwe builder).token? around move = some token) :
    (builder.encrypt around).outcome = .done token := by
  obtain ⟨progress, moved, done⟩ := Builder.token?_eq_some_iff.mp made
  cases move with
  | encrypt =>
      obtain rfl := Option.some.inj moved
      simp only [Build.bind_eq_done, Build.outcome_pure, Outcome.done.injEq,
        Progress.token.injEq] at done
      obtain ⟨_, encrypted, rfl⟩ := done
      exact encrypted
  | encryptLater inside =>
      obtain rfl := Option.some.inj moved
      simp only [Build.bind_eq_done, Build.outcome_pure, Pool.run_eq,
        Outcome.deferred_eq_done_iff, Outcome.done.injEq, Progress.token.injEq] at done
      obtain ⟨_, encrypted, rfl⟩ := done
      exact encrypted
  | _ => contradiction

theorem JweBuilder.token?_encryptLater {builder : JweBuilder} (inside : Bool)
    (encrypted : (builder.encrypt around).outcome = .done token) :
    (Builder.jwe builder).token? around (.encryptLater inside) = some token := by
  refine Builder.token?_eq_some_iff.mpr ⟨_, rfl, ?_⟩
  simp only [Build.bind_eq_done, Pool.run_eq, encrypted]
  exact ⟨token, rfl, rfl⟩

end Inversion

structure Issuer.Finishes (issuer : Issuer) (calls : Chain) (finishing : Surroundings)
    (claims : Claims) : Prop where
  onlyCalls : ∀ step ∈ calls, step.2.isCall = true
  finished : ∃ builder, (Builder.claims issuer.claims).after? calls = some (.claims builder) ∧
    (builder.finish finishing).outcome = .done claims

inductive JwePayload.IsFrom (issuer : Issuer) : Chain → JwePayload → Prop
  | claims {calls : Chain} {finishing : Surroundings} {move : Move} {claims : Claims}
      (finished : issuer.Finishes calls finishing claims)
      (enters : move = .jwe ∨ move = .encrypt) :
      IsFrom issuer (calls ++ [(finishing, move)]) (.claims claims)
  | signedAtOnce {calls : Chain} {signing : Surroundings} {claims : Claims} {token : Token}
      (finished : issuer.Finishes calls signing claims)
      (signed : (Jws.sign issuer.config signing.source claims .blank).outcome = .done token) :
      IsFrom issuer (calls ++ [(signing, .innerSign)]) (.nested token)
  | signed {calls setters : Chain} {finishing signing : Surroundings} {claims : Claims}
      {token : Token} (finished : issuer.Finishes calls finishing claims)
      (onlySets : ∀ step ∈ setters, step.2.setsSigning = true)
      (signed : (Jws.sign issuer.config signing.source claims
        ⟨Chain.lastSet Move.keyId? setters, Chain.lastSet Move.algorithm? setters⟩).outcome =
          .done token) :
      IsFrom issuer (calls ++ [(finishing, .jws)] ++ setters ++ [(signing, .innerSign)])
        (.nested token)

inductive Issuer.Stands (issuer : Issuer) : Chain → Builder → Prop
  | collecting {calls : Chain} {builder : ClaimsBuilder} (kept : builder.config = issuer.config)
      (onlyCalls : ∀ step ∈ calls, step.2.isCall = true) : Stands issuer calls (.claims builder)
  | signing {calls setters : Chain} {finishing : Surroundings} {claims : Claims}
      (finished : issuer.Finishes calls finishing claims)
      (onlySets : ∀ step ∈ setters, step.2.setsSigning = true) :
      Stands issuer (calls ++ [(finishing, .jws)] ++ setters) (.jws ⟨issuer.config, claims,
        ⟨Chain.lastSet Move.keyId? setters, Chain.lastSet Move.algorithm? setters⟩⟩)
  | encrypting {entry setters : Chain} {payload : JwePayload}
      (entered : payload.IsFrom issuer entry)
      (onlySets : ∀ step ∈ setters, step.2.setsEncryption = true) :
      Stands issuer (entry ++ setters) (.jwe ⟨issuer.config, payload,
        ⟨Chain.lastSet Move.keyId? setters, Chain.lastSet Move.contentAlgorithm? setters⟩⟩)

namespace Issuer

variable {issuer : Issuer} {chain : Chain} {around : Surroundings} {move : Move}
  {builder made : Builder}

theorem forall_snoc {holds : Move → Bool} (before : ∀ step ∈ chain, holds step.2 = true)
    (around : Surroundings) (move : Move) (last : holds move = true) :
    ∀ step ∈ chain ++ [(around, move)], holds step.2 = true := by
  intro step member
  rcases List.mem_append.mp member with earlier | same
  · exact before step earlier
  · rw [List.mem_singleton.mp same]
    exact last

theorem Stands.entered {entry : Chain} {payload : JwePayload}
    (entered : payload.IsFrom issuer entry) :
    issuer.Stands entry (.jwe ⟨issuer.config, payload, .blank⟩) := by
  have stands : issuer.Stands (entry ++ []) _ := .encrypting entered (by simp)
  rw [List.append_nil] at stands
  exact stands

theorem Stands.step (reached : (Builder.claims issuer.claims).after? chain = some builder)
    (stands : issuer.Stands chain builder) (moved : builder.next? around move = some made) :
    issuer.Stands (chain ++ [(around, move)]) made := by
  cases stands with
  | collecting kept onlyCalls =>
      rcases ClaimsBuilder.next?_cases moved with ⟨call, next, rfl, called, rfl⟩ |
        ⟨claims, rfl, finished, rfl⟩ | ⟨claims, rfl, finished, rfl⟩ |
        ⟨claims, signed, rfl, finished, sign, rfl⟩
      · exact .collecting ((ClaimsBuilder.call_config called).trans kept)
          (forall_snoc onlyCalls around _ rfl)
      · have stands : issuer.Stands (chain ++ [(around, .jws)] ++ []) _ :=
          .signing ⟨onlyCalls, _, reached, finished⟩ (by simp)
        rw [List.append_nil] at stands
        rw [kept]
        exact stands
      · rw [kept]
        exact .entered (.claims ⟨onlyCalls, _, reached, finished⟩ (.inl rfl))
      · rw [kept] at sign ⊢
        exact .entered (.signedAtOnce ⟨onlyCalls, _, reached, finished⟩ sign)
  | signing finished onlySets =>
      rcases JwsBuilder.next?_cases moved with ⟨keyId, rfl, rfl⟩ | ⟨algorithm, rfl, rfl⟩ |
        ⟨signed, rfl, sign, rfl⟩
      · rw [List.append_assoc]
        have stands := Stands.signing finished
          (forall_snoc onlySets around (.keyId keyId) rfl)
        simpa [Move.keyId?, Move.algorithm?, JwsBuilder.keyId] using stands
      · rw [List.append_assoc]
        have stands := Stands.signing finished
          (forall_snoc onlySets around (.algorithm algorithm) rfl)
        simpa [Move.keyId?, Move.algorithm?, JwsBuilder.algorithm] using stands
      · exact .entered (.signed finished onlySets sign)
  | encrypting entered onlySets =>
      rw [List.append_assoc]
      rcases JweBuilder.next?_cases moved with ⟨keyId, rfl, rfl⟩ | ⟨algorithm, rfl, rfl⟩
      · have stands := Stands.encrypting entered
          (forall_snoc onlySets around (.keyId keyId) rfl)
        simpa [Move.keyId?, Move.contentAlgorithm?, JweBuilder.keyId] using stands
      · have stands := Stands.encrypting entered
          (forall_snoc onlySets around (.contentAlgorithm algorithm) rfl)
        simpa [Move.keyId?, Move.contentAlgorithm?, JweBuilder.contentAlgorithm] using stands

theorem stands_of_after? (chain : Chain) {builder : Builder}
    (reached : (Builder.claims issuer.claims).after? chain = some builder) :
    issuer.Stands chain builder := by
  induction chain using List.reverseRecOn generalizing builder with
  | nil =>
      obtain rfl : Builder.claims issuer.claims = builder := Option.some.inj reached
      exact .collecting rfl (by simp)
  | append_singleton earlier step ih =>
      obtain ⟨standing, reached, moved⟩ := Builder.after?_snoc.mp reached
      exact (ih reached).step reached moved

end Issuer

end Jose
