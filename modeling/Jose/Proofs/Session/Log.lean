import Jose.Proofs.Claims.Finished
import Jose.Proofs.Log
import Jose.Proofs.Session.Isolation
import Jose.Proofs.Session.Reads

/-!
What a log gives away. Two runs of the same commands, on keys and claim values of their own, have
the same trace, as long as their keys resolve alike and the same commands succeed: the log shows
names, counts and families of keys, and nothing of what they stand for.
-/

namespace Jose

section Claims

def HaveSameNames (left right : List String) : Prop := ∀ name, name ∈ left ↔ name ∈ right

def ClaimsCall.names : ClaimsCall → List String
  | claim name _ => [name]
  | object (.object members) => Members.names members
  | object _ => []
  | issuer _ => ["iss"]
  | subject _ => ["sub"]
  | audience _ | audiences _ => ["aud"]
  | issuedAt _ => ["iat"]
  | expiresAt _ | expiresIn _ => ["exp"]
  | notBefore _ => ["nbf"]
  | tokenId _ => ["jti"]

theorem ClaimsCall.names_checked {members : List (String × Json)} {written : Members Json}
    (accepted : checked members = .ok written) : written.names = Members.names members := by
  induction members generalizing written with
  | nil =>
      injection accepted with same
      exact same ▸ rfl
  | cons member rest ih =>
      obtain ⟨name, value⟩ := member
      cases first : Datum.claimValue name (.json value) with
      | error refused => simp [checked, first, bind, Except.bind] at accepted
      | ok held =>
          cases later : checked rest with
          | error refused => simp [checked, first, later, bind, Except.bind] at accepted
          | ok others =>
              simp only [checked, first, later, bind, Except.bind, pure, Except.pure] at accepted
              injection accepted with same
              exact same ▸ congrArg (name :: ·) (ih later)

theorem ClaimsCall.names_written {now : Instant} {call : ClaimsCall} {members : Members Json}
    (written : call.written now = .ok members) : members.names = call.names := by
  cases call with
  | claim name value =>
      cases held : Datum.claimValue name value with
      | error refused => simp [ClaimsCall.written, held, Except.map] at written
      | ok json =>
          simp only [ClaimsCall.written, held, Except.map] at written
          injection written with same
          exact same ▸ rfl
  | object value =>
      cases value with
      | object present => exact names_checked written
      | _ => simp [ClaimsCall.written] at written
  | _ =>
      injection written with same
      exact same ▸ rfl

theorem Members.mem_names_putAll {α : Type} (later : List (String × α)) (members : Members α)
    (name : String) :
    name ∈ (members.putAll later).names ↔ name ∈ members.names ∨ name ∈ Members.names later := by
  induction later generalizing members with
  | nil => simp [putAll, names]
  | cons entry rest ih =>
      have first : members.putAll (entry :: rest) = (members.put entry.1 entry.2).putAll rest := rfl
      rw [first, ih, names_put, names_cons, List.mem_cons]
      split
      · next present =>
          constructor
          · rintro (before | later)
            · exact .inl before
            · exact .inr (.inr later)
          · rintro (before | rfl | later)
            · exact .inl before
            · exact .inl present
            · exact .inr later
      · simp [or_assoc]

theorem Members.names_missing {α : Type} (added : List (String × α)) (members : Members α) :
    (members.missing added).names = (Members.names added).filter fun name => !members.has name := by
  rw [missing, names, names, List.filter_map]
  rfl

structure ClaimsBuilder.LooksLike (left right : ClaimsBuilder) : Prop where
  config : left.config = right.config
  distinct : left.entries.IsDistinct
  distinctThere : right.entries.IsDistinct
  names : HaveSameNames left.entries.names right.entries.names

theorem Issuer.claims_looksLike (issuer : Issuer) : issuer.claims.LooksLike issuer.claims :=
  ⟨rfl, List.nodup_nil, List.nodup_nil, fun _ => Iff.rfl⟩

theorem ClaimsBuilder.looksLike_call {left right next nextThere : ClaimsBuilder}
    (alike : left.LooksLike right) {now nowThere : Instant} {call other : ClaimsCall}
    (names : HaveSameNames call.names other.names) (called : left.call now call = .ok next)
    (calledThere : right.call nowThere other = .ok nextThere) : next.LooksLike nextThere := by
  cases written : call.written now with
  | error refused => simp [ClaimsBuilder.call, written, Except.map] at called
  | ok members =>
      cases writtenThere : other.written nowThere with
      | error refused => simp [ClaimsBuilder.call, writtenThere, Except.map] at calledThere
      | ok membersThere =>
          simp only [ClaimsBuilder.call, written, Except.map] at called
          simp only [ClaimsBuilder.call, writtenThere, Except.map] at calledThere
          injection called with same
          injection calledThere with sameThere
          subst same sameThere
          refine ⟨alike.config, alike.distinct.putAll _, alike.distinctThere.putAll _, ?_⟩
          intro name
          rw [Members.mem_names_putAll, Members.mem_names_putAll, alike.names,
            ClaimsCall.names_written written, ClaimsCall.names_written writtenThere, names]

/-- How many claims are finished depends on their names. -/
theorem ClaimsBuilder.LooksLike.size_finish {left right : ClaimsBuilder}
    (alike : left.LooksLike right) (now nowThere : Int) (tokenId tokenIdThere : String) :
    (Claims.finish left.config now tokenId left.entries).size =
      (Claims.finish right.config nowThere tokenIdThere right.entries).size := by
  have has : ∀ name, left.entries.has name = right.entries.has name := by
    intro name
    rw [Bool.eq_iff_iff, Members.has_eq_true_iff, Members.has_eq_true_iff]
    exact alike.names name
  have entries : left.entries.names.Perm right.entries.names :=
    (List.perm_ext_iff_of_nodup alike.distinct alike.distinctThere).mpr alike.names
  have sizes : ∀ claims : Claims, claims.size = claims.entries.names.length := by
    intro claims
    rw [Claims.size, Members.names, List.length_map]
  rw [sizes, sizes, Claims.finish_entries, Claims.finish_entries, Members.names_append,
    Members.names_append, Members.names_missing, Members.names_missing, List.length_append,
    List.length_append, entries.length_eq, alike.config]
  simp only [has]
  rw [Claims.names_defaults]

end Claims

namespace Build

variable {α β α' β' : Type} {related : α → β → Prop} {relatedAfter : α' → β' → Prop}

structure LooksLike (related : α → β → Prop) (left : Build α) (right : Build β) : Prop where
  log : ∃ before after, left.Reports before after ∧ right.Reports before after
  result : ∀ here there, left.outcome = .done here → right.outcome = .done there →
    related here there

abbrev ShowsAlike (left : Build α) (right : Build β) : Prop :=
  left.LooksLike (fun _ _ => True) right

theorem reports_self (build : Build α) : build.Reports build.trace [] :=
  ⟨fun _ => (List.append_nil _).symm, fun _ => rfl⟩

theorem looksLike_of_trace {left : Build α} {right : Build β} (same : left.trace = right.trace)
    (result : ∀ here there, left.outcome = .done here → right.outcome = .done there →
      related here there) : left.LooksLike related right :=
  ⟨⟨_, _, left.reports_self, same ▸ right.reports_self⟩, result⟩

theorem looksLike_pure {here : α} {there : β} (alike : related here there) :
    LooksLike related (Pure.pure here) (Pure.pure there) := by
  refine looksLike_of_trace rfl ?_
  rintro _ _ ⟨⟩ ⟨⟩
  exact alike

theorem looksLike_of_reports {left : Build α} {right : Build β} {before after : List Note}
    (reports : left.Reports before after) (reportsThere : right.Reports before after) :
    left.ShowsAlike right :=
  ⟨⟨_, _, reports, reportsThere⟩, fun _ _ _ _ => trivial⟩

theorem showsAlike_of_trace {left : Build α} {right : Build β} (same : left.trace = right.trace) :
    left.ShowsAlike right :=
  looksLike_of_trace same fun _ _ _ _ => trivial

theorem LooksLike.map {left : Build α} {right : Build β} (alike : left.LooksLike related right)
    {change : α → α'} {changeThere : β → β'}
    (keeps : ∀ here there, related here there → relatedAfter (change here) (changeThere there)) :
    LooksLike relatedAfter (do return change (← left)) (do return changeThere (← right)) := by
  obtain ⟨before, after, reports, reportsThere⟩ := alike.log
  refine ⟨⟨before, after, reports.map change, reportsThere.map changeThere⟩, ?_⟩
  intro here there done doneThere
  obtain ⟨value, found, same⟩ := bind_eq_done.mp done
  obtain ⟨valueThere, foundThere, sameThere⟩ := bind_eq_done.mp doneThere
  injection same with same
  injection sameThere with sameThere
  exact same ▸ sameThere ▸ keeps value valueThere (alike.result _ _ found foundThere)

theorem LooksLike.showsAlike {left : Build α} {right : Build β}
    (alike : left.LooksLike related right) (change : α → α') (changeThere : β → β') :
    ShowsAlike (do return change (← left)) (do return changeThere (← right)) :=
  alike.map fun _ _ _ => trivial

/-- After stages that have succeeded with the same trace. -/
theorem LooksLike.after_done {first : Build α} {firstThere : Build β} {value : α} {valueThere : β}
    (same : first.trace = firstThere.trace) (done : first.outcome = .done value)
    (doneThere : firstThere.outcome = .done valueThere) {next : α → Build α'}
    {nextThere : β → Build β'}
    (alike : (next value).LooksLike relatedAfter (nextThere valueThere)) :
    (first >>= next).LooksLike relatedAfter (firstThere >>= nextThere) := by
  obtain ⟨before, after, reports, reportsThere⟩ := alike.log
  refine ⟨⟨_, after, reports.after_done done, same ▸ reportsThere.after_done doneThere⟩, ?_⟩
  rw [bind_of_done done, bind_of_done doneThere]
  exact alike.result

end Build

section Moves

inductive Builder.LooksLike : Builder → Builder → Prop
  | claims {left right : ClaimsBuilder} : left.LooksLike right →
      LooksLike (.claims left) (.claims right)
  | jws (config : Config) (left right : Claims) (choices : JwsChoices) :
      LooksLike (.jws ⟨config, left, choices⟩) (.jws ⟨config, right, choices⟩)
  | jwe (config : Config) {left right : JwePayload} (choices : JweChoices) :
      left.isNested = right.isNested →
      LooksLike (.jwe ⟨config, left, choices⟩) (.jwe ⟨config, right, choices⟩)

inductive Move.LooksLike : Move → Move → Prop
  | same (move : Move) : LooksLike move move
  | call {left right : ClaimsCall} : HaveSameNames left.names right.names →
      LooksLike (.call left) (.call right)

inductive Progress.LooksLike : Progress → Progress → Prop
  | builder {left right : Builder} : left.LooksLike right →
      LooksLike (.builder left) (.builder right)
  | claims (left right : Claims) : LooksLike (.claims left) (.claims right)
  | token (left right : Token) : LooksLike (.token left) (.token right)

def Builder.keyId? : Builder → Option String
  | .claims _ => none
  | .jws builder => builder.choices.keyId
  | .jwe builder => builder.choices.keyId

def Builder.finding? (around : Surroundings) (builder : Builder) (move : Move) :
    Option Finding := do
  let _ ← builder.move? around move
  let role ← move.role?
  return builder.config.finding role around.source builder.keyId?

variable {around elsewhere : Surroundings}

theorem Jws.sign_looksLike (config : Config) (choices : JwsChoices)
    (paths : around.source.paths = elsewhere.source.paths)
    (finding : config.finding .signing around.source choices.keyId =
      config.finding .signing elsewhere.source choices.keyId) (claims claimsThere : Claims) :
    (sign config around.source claims choices).ShowsAlike
      (sign config elsewhere.source claimsThere choices) := by
  refine Build.looksLike_of_reports (sign_reports config around.source claims choices) ?_
  rw [paths, finding]
  exact sign_reports config elsewhere.source claimsThere choices

theorem Jwe.encrypt_looksLike (config : Config) (choices : JweChoices)
    (paths : around.source.paths = elsewhere.source.paths)
    (finding : config.finding .keyEncryption around.source choices.keyId =
      config.finding .keyEncryption elsewhere.source choices.keyId)
    (payload payloadThere : Bytes) (isNested : Bool) :
    (encrypt config around.source around.entropy payload isNested choices).ShowsAlike
      (encrypt config elsewhere.source elsewhere.entropy payloadThere isNested choices) := by
  refine Build.looksLike_of_reports
    (encrypt_reports config around.source around.entropy payload isNested choices) ?_
  rw [paths, finding]
  exact encrypt_reports config elsewhere.source elsewhere.entropy payloadThere isNested choices

theorem Pool.run_looksLike (inside : Bool) {job jobThere : Job}
    (alike : (job around).ShowsAlike (jobThere elsewhere)) :
    (run inside job around).ShowsAlike (run inside jobThere elsewhere) := by
  obtain ⟨before, after, reports, reportsThere⟩ := alike.log
  exact Build.looksLike_of_reports (run_reports inside reports) (run_reports inside reportsThere)

abbrev Move.LooksAlike : Option (Build Progress) → Option (Build Progress) → Prop :=
  Option.Rel (Build.LooksLike Progress.LooksLike)

theorem Move.looksAlike_token {left right : Build Token}
    (alike : left.ShowsAlike right) :
    Move.LooksAlike (some do return .token (← left)) (some do return .token (← right)) :=
  .some (alike.map fun here there _ => .token here there)

theorem ClaimsBuilder.LooksLike.finish_trace {left right : ClaimsBuilder}
    (alike : left.LooksLike right) (around elsewhere : Surroundings) :
    (left.finish around).trace = (right.finish elsewhere).trace :=
  congrArg (fun size => [Note.event (.finalizedClaims size)]) (alike.size_finish _ _ _ _)

theorem ClaimsBuilder.jws_done (around : Surroundings) (builder : ClaimsBuilder) :
    ∃ claims, (builder.jws around).outcome = .done ⟨builder.config, claims, .blank⟩ := ⟨_, rfl⟩

theorem ClaimsBuilder.jwe_done (around : Surroundings) (builder : ClaimsBuilder) :
    ∃ claims, (builder.jwe around).outcome = .done ⟨builder.config, .claims claims, .blank⟩ :=
  ⟨_, rfl⟩

theorem ClaimsBuilder.LooksLike.call {here there : ClaimsBuilder} (alike : here.LooksLike there)
    {call other : ClaimsCall} (names : HaveSameNames call.names other.names) :
    Move.LooksAlike (here.move? around (.call call)) (there.move? elsewhere (.call other)) := by
  have called : (Build.ofExcept (here.call around.now call)).LooksLike ClaimsBuilder.LooksLike
      (Build.ofExcept (there.call elsewhere.now other)) := by
    refine Build.looksLike_of_trace rfl ?_
    intro next nextThere done doneThere
    exact looksLike_call alike names (Build.outcome_ofExcept_eq_done.mp done)
      (Build.outcome_ofExcept_eq_done.mp doneThere)
  exact .some (called.map fun _ _ related => .builder (.claims related))

theorem JwsBuilder.innerSign_looksLike {here there : JwsBuilder}
    (config : here.config = there.config)
    (alike : (here.sign around).ShowsAlike (there.sign elsewhere)) :
    Build.LooksLike Progress.LooksLike
      (do return .builder (.jwe (← here.innerSign around)))
      (do return .builder (.jwe (← there.innerSign elsewhere))) := by
  have inner : (here.innerSign around).LooksLike
      (fun left right => (Builder.jwe left).LooksLike (.jwe right)) (there.innerSign elsewhere) :=
    alike.map fun left right _ => by
      rw [JweBuilder.make, JweBuilder.make, config]
      exact .jwe _ _ rfl
  exact inner.map fun _ _ related => .builder related

theorem ClaimsBuilder.move?_looksAlike {here there : ClaimsBuilder} (alike : here.LooksLike there)
    {move other : Move} (moves : move.LooksLike other)
    (paths : around.source.paths = elsewhere.source.paths)
    (finding : (Builder.claims here).finding? around move =
      (Builder.claims there).finding? elsewhere other) :
    Move.LooksAlike (here.move? around move) (there.move? elsewhere other) := by
  have trace := alike.finish_trace around elsewhere
  have jws : (here.jws around).trace = (there.jws elsewhere).trace := trace
  have jwe : (here.jwe around).trace = (there.jwe elsewhere).trace := trace
  obtain ⟨config, entries⟩ := here
  obtain ⟨configThere, entriesThere⟩ := there
  obtain rfl : config = configThere := alike.config
  cases moves with
  | call names => exact alike.call names
  | same move =>
      cases move with
      | call call => exact alike.call fun _ => Iff.rfl
      | finish =>
          have finished := Build.showsAlike_of_trace trace
          exact .some (finished.map fun left right _ => .claims left right)
      | jws =>
          obtain ⟨claims, signing⟩ := jws_done around ⟨config, entries⟩
          obtain ⟨claimsThere, signingThere⟩ := jws_done elsewhere ⟨config, entriesThere⟩
          exact .some (.after_done jws signing signingThere
            (Build.looksLike_pure (.builder (.jws config claims claimsThere .blank))))
      | jwe =>
          obtain ⟨claims, encrypting⟩ := jwe_done around ⟨config, entries⟩
          obtain ⟨claimsThere, encryptingThere⟩ := jwe_done elsewhere ⟨config, entriesThere⟩
          exact .some (.after_done jwe encrypting encryptingThere
            (Build.looksLike_pure (.builder (.jwe config .blank rfl))))
      | innerSign =>
          obtain ⟨claims, signing⟩ := jws_done around ⟨config, entries⟩
          obtain ⟨claimsThere, signingThere⟩ := jws_done elsewhere ⟨config, entriesThere⟩
          refine .some (.after_done jws signing signingThere ?_)
          exact JwsBuilder.innerSign_looksLike rfl
            (Jws.sign_looksLike config .blank paths (Option.some.inj finding) claims claimsThere)
      | sign =>
          obtain ⟨claims, signing⟩ := jws_done around ⟨config, entries⟩
          obtain ⟨claimsThere, signingThere⟩ := jws_done elsewhere ⟨config, entriesThere⟩
          refine .some (.after_done jws signing signingThere ?_)
          exact (Jws.sign_looksLike config .blank paths (Option.some.inj finding) claims
            claimsThere).map fun left right _ => .token left right
      | encrypt =>
          obtain ⟨claims, encrypting⟩ := jwe_done around ⟨config, entries⟩
          obtain ⟨claimsThere, encryptingThere⟩ := jwe_done elsewhere ⟨config, entriesThere⟩
          refine .some (.after_done jwe encrypting encryptingThere ?_)
          exact (Jwe.encrypt_looksLike config .blank paths (Option.some.inj finding) claims.payload
            claimsThere.payload false).map fun left right _ => .token left right
      | _ => exact .none

theorem JwsBuilder.move?_looksAlike (config : Config) (left right : Claims) (choices : JwsChoices)
    {move other : Move} (moves : move.LooksLike other)
    (paths : around.source.paths = elsewhere.source.paths)
    (finding : (Builder.jws ⟨config, left, choices⟩).finding? around move =
      (Builder.jws ⟨config, right, choices⟩).finding? elsewhere other) :
    Move.LooksAlike (JwsBuilder.move? around ⟨config, left, choices⟩ move)
      (JwsBuilder.move? elsewhere ⟨config, right, choices⟩ other) := by
  cases moves with
  | call names => exact .none
  | same move =>
      cases move with
      | keyId keyId =>
          exact .some (Build.looksLike_pure (.builder (.jws config left right _)))
      | algorithm algorithm =>
          exact .some (Build.looksLike_pure (.builder (.jws config left right _)))
      | innerSign =>
          exact .some (innerSign_looksLike rfl
            (Jws.sign_looksLike config choices paths (Option.some.inj finding) left right))
      | sign =>
          exact Move.looksAlike_token
            (Jws.sign_looksLike config choices paths (Option.some.inj finding) left right)
      | signLater inside =>
          exact Move.looksAlike_token (Pool.run_looksLike inside
            (Jws.sign_looksLike config choices paths (Option.some.inj finding) left right))
      | _ => exact .none

theorem JweBuilder.move?_looksAlike (config : Config) {left right : JwePayload}
    (choices : JweChoices) (nested : left.isNested = right.isNested)
    {move other : Move} (moves : move.LooksLike other)
    (paths : around.source.paths = elsewhere.source.paths)
    (finding : (Builder.jwe ⟨config, left, choices⟩).finding? around move =
      (Builder.jwe ⟨config, right, choices⟩).finding? elsewhere other) :
    Move.LooksAlike (JweBuilder.move? around ⟨config, left, choices⟩ move)
      (JweBuilder.move? elsewhere ⟨config, right, choices⟩ other) := by
  have encrypts (same : config.finding .keyEncryption around.source choices.keyId =
      config.finding .keyEncryption elsewhere.source choices.keyId) :
      (JweBuilder.encrypt around ⟨config, left, choices⟩).ShowsAlike
        (JweBuilder.encrypt elsewhere ⟨config, right, choices⟩) := by
    rw [JweBuilder.encrypt, JweBuilder.encrypt]
    dsimp only
    rw [nested]
    exact Jwe.encrypt_looksLike config choices paths same _ _ _
  cases moves with
  | call names => exact .none
  | same move =>
      cases move with
      | keyId keyId =>
          exact .some (Build.looksLike_pure (.builder (.jwe config _ nested)))
      | contentAlgorithm algorithm =>
          exact .some (Build.looksLike_pure (.builder (.jwe config _ nested)))
      | encrypt => exact Move.looksAlike_token (encrypts (Option.some.inj finding))
      | encryptLater inside =>
          exact Move.looksAlike_token
            (Pool.run_looksLike inside (encrypts (Option.some.inj finding)))
      | _ => exact .none

theorem Builder.move?_looksAlike {here there : Builder} (alike : here.LooksLike there)
    {move other : Move} (moves : move.LooksLike other)
    (paths : around.source.paths = elsewhere.source.paths)
    (finding : here.finding? around move = there.finding? elsewhere other) :
    Move.LooksAlike (here.move? around move) (there.move? elsewhere other) := by
  cases alike with
  | claims alike => exact ClaimsBuilder.move?_looksAlike alike moves paths finding
  | jws config left right choices =>
      exact JwsBuilder.move?_looksAlike config left right choices moves paths finding
  | jwe config choices nested =>
      exact JweBuilder.move?_looksAlike config choices nested moves paths finding

end Moves

inductive Command.LooksLike : Command → Command → Prop
  | same (command : Command) : LooksLike command command
  | call (slot next : String) {left right : ClaimsCall} : HaveSameNames left.names right.names →
      LooksLike (.move slot next (.call left)) (.move slot next (.call right))
  | signClaims (issuer : String) {left right : Json} (choices : JwsChoices) :
      HaveSameNames (ClaimsCall.object left).names (ClaimsCall.object right).names →
      LooksLike (.signClaims issuer left choices) (.signClaims issuer right choices)
  | encryptOctets (issuer : String) (left right : Bytes) (isNested : Bool) (choices : JweChoices) :
      LooksLike (.encryptOctets issuer left isNested choices)
        (.encryptOctets issuer right isNested choices)

namespace Session

def finding? (around : Surroundings) (session : Session) : Command → Option Finding
  | .resolveSigning name keyId => do
      let issuer ← session.issuers.get? name
      return issuer.config.finding .signing around.source keyId
  | .resolveEncryption name keyId => do
      let issuer ← session.issuers.get? name
      return issuer.config.finding .keyEncryption around.source keyId
  | .encryptOctets name _ _ choices => do
      let issuer ← session.issuers.get? name
      return issuer.config.finding .keyEncryption around.source choices.keyId
  | .signClaims name claims choices => do
      let issuer ← session.issuers.get? name
      let _ ← (issuer.claims.call around.now (.object claims)).toOption
      return issuer.config.finding .signing around.source choices.keyId
  | .move slot _ move => do
      let builder ← session.builders.get? slot
      builder.finding? around move
  | _ => none

/-- Two runs of the same commands, on claims of the same names. Each has surroundings of its own, in
which the same files are looked into. Step by step the same is found where a key is resolved, and
both succeed or neither does. -/
inductive RunAlike : Session → Session → List (Surroundings × Command) →
    List (Surroundings × Command) → Prop
  | done (here there : Session) : RunAlike here there [] []
  | step {here there : Session} {around elsewhere : Surroundings} {command other : Command}
      {rest others : List (Surroundings × Command)} :
      around.source.paths = elsewhere.source.paths → command.LooksLike other →
      here.finding? around command = there.finding? elsewhere other →
      ((here.step around command).2.IsDone ↔ (there.step elsewhere other).2.IsDone) →
      RunAlike (here.step around command).1 (there.step elsewhere other).1 rest others →
      RunAlike here there ((around, command) :: rest) ((elsewhere, other) :: others)

structure LooksLike (left right : Session) : Prop where
  issuers : left.issuers = right.issuers
  builders : ∀ slot, Option.Rel Builder.LooksLike (left.builders.get? slot)
    (right.builders.get? slot)

section Steps

variable {here there : Session} {around elsewhere : Surroundings}

theorem LooksLike.putIssuer (alike : here.LooksLike there) (name : String) (issuer : Issuer) :
    (here.putIssuer name issuer).LooksLike (there.putIssuer name issuer) :=
  ⟨congrArg (Members.put name issuer) alike.issuers, alike.builders⟩

theorem LooksLike.putBuilder (alike : here.LooksLike there) (slot : String)
    {builder builderThere : Builder} (related : builder.LooksLike builderThere) :
    (here.putBuilder slot builder).LooksLike (there.putBuilder slot builderThere) := by
  refine ⟨alike.issuers, ?_⟩
  intro other
  simp only [Session.putBuilder, Members.get?_put_eq]
  split
  · exact .some related
  · exact alike.builders other

theorem LooksLike.dropBuilder (alike : here.LooksLike there) (slot : String) :
    (here.dropBuilder slot).LooksLike (there.dropBuilder slot) := by
  refine ⟨alike.issuers, ?_⟩
  intro other
  simp only [Session.dropBuilder, Members.get?_drop]
  split
  · exact .none
  · exact alike.builders other

structure GoesAlike (left right : Result) : Prop where
  reply : left.2.ShowsAlike right.2
  next : (left.2.IsDone ↔ right.2.IsDone) → left.1.LooksLike right.1

theorem goesAlike_of_trace {left right : Result} (next : left.1.LooksLike right.1)
    (same : left.2.trace = right.2.trace) : GoesAlike left right :=
  ⟨Build.showsAlike_of_trace same, fun _ => next⟩

theorem withIssuer_goesAlike (alike : here.LooksLike there) (name : String)
    {next nextThere : Issuer → Result}
    (goes : ∀ issuer, here.issuers.get? name = some issuer →
      GoesAlike (next issuer) (nextThere issuer)) :
    GoesAlike (here.withIssuer name next) (there.withIssuer name nextThere) := by
  simp only [withIssuer, ← alike.issuers]
  cases found : here.issuers.get? name with
  | none => exact goesAlike_of_trace alike rfl
  | some issuer => exact goes issuer found

theorem withBuilder_goesAlike (alike : here.LooksLike there) (slot : String)
    {next nextThere : Builder → Result}
    (goes : ∀ builder builderThere, here.builders.get? slot = some builder →
      there.builders.get? slot = some builderThere → builder.LooksLike builderThere →
      GoesAlike (next builder) (nextThere builderThere)) :
    GoesAlike (here.withBuilder slot next) (there.withBuilder slot nextThere) := by
  have related := alike.builders slot
  simp only [withBuilder]
  cases found : here.builders.get? slot with
  | none =>
      cases foundThere : there.builders.get? slot with
      | none => exact goesAlike_of_trace alike rfl
      | some builder =>
          rw [found, foundThere] at related
          cases related
  | some builder =>
      cases foundThere : there.builders.get? slot with
      | none =>
          rw [found, foundThere] at related
          cases related
      | some builderThere =>
          rw [found, foundThere] at related
          cases related with
          | some related => exact goes builder builderThere found foundThere related

theorem withClaims_goesAlike (alike : here.LooksLike there) (slot : String)
    {next nextThere : ClaimsBuilder → Result}
    (goes : ∀ builder builderThere : ClaimsBuilder, builder.LooksLike builderThere →
      GoesAlike (next builder) (nextThere builderThere)) :
    GoesAlike (here.withClaims slot next) (there.withClaims slot nextThere) := by
  apply withBuilder_goesAlike alike
  intro builder builderThere _ _ related
  cases related with
  | claims related => exact goes _ _ related
  | jws config left right choices => exact goesAlike_of_trace (alike.dropBuilder slot) rfl
  | jwe config choices nested => exact goesAlike_of_trace (alike.dropBuilder slot) rfl

theorem install_goesAlike (alike : here.LooksLike there) (name : String) (change : Build Issuer) :
    GoesAlike (here.install name change) (there.install name change) := by
  cases outcome : change.outcome with
  | done issuer =>
      simp only [install, outcome]
      exact goesAlike_of_trace (alike.putIssuer name issuer) rfl
  | failed error =>
      simp only [install, outcome]
      exact goesAlike_of_trace alike rfl
  | crashed =>
      simp only [install, outcome]
      exact goesAlike_of_trace alike rfl

theorem keep_goesAlike (alike : here.LooksLike there) {left right : Build Reply}
    (replies : left.ShowsAlike right) :
    GoesAlike (here.keep left) (there.keep right) :=
  ⟨replies, fun _ => alike⟩

theorem keep_goesAlike_of_trace {α β : Type} (alike : here.LooksLike there) {left : Build α}
    {right : Build β} {reply : α → Reply} {replyThere : β → Reply}
    (same : left.trace = right.trace) :
    GoesAlike (here.keep do return reply (← left)) (there.keep do return replyThere (← right)) :=
  keep_goesAlike alike ((Build.showsAlike_of_trace same).showsAlike _ _)

theorem advance_of_undone {progress : Build Progress} (undone : ¬ progress.IsDone)
    (session : Session) (next : String) : (session.advance next progress).1 = session := by
  simp only [advance]
  split
  · next made found => exact absurd ⟨_, found⟩ undone
  · next made found => exact absurd ⟨_, found⟩ undone
  · next made found => exact absurd ⟨_, found⟩ undone
  · rfl
  · rfl

theorem advance_goesAlike (alike : here.LooksLike there) (next : String)
    {progress progressThere : Build Progress}
    (related : progress.LooksLike Progress.LooksLike progressThere) :
    GoesAlike (here.advance next progress) (there.advance next progressThere) := by
  refine ⟨?_, ?_⟩
  · rw [advance_reply, advance_reply]
    exact related.showsAlike _ _
  · rw [advance_reply, advance_reply, replyTo, replyTo, Build.isDone_map_iff, Build.isDone_map_iff]
    intro ends
    by_cases done : progress.IsDone
    · obtain ⟨made, found⟩ := done
      obtain ⟨madeThere, foundThere⟩ := ends.mp ⟨made, found⟩
      simp only [advance, found, foundThere]
      cases related.result made madeThere found foundThere with
      | builder related => exact alike.putBuilder next related
      | claims claims claimsThere => exact alike
      | token token tokenThere => exact alike
    · rw [advance_of_undone done, advance_of_undone (mt ends.mpr done)]
      exact alike

theorem move_goesAlike (alike : here.LooksLike there) (slot next : String) {move other : Move}
    (moves : move.LooksLike other) (paths : around.source.paths = elsewhere.source.paths)
    (finding : here.finding? around (.move slot next move) =
      there.finding? elsewhere (.move slot next other)) :
    GoesAlike (here.step around (.move slot next move))
      (there.step elsewhere (.move slot next other)) := by
  apply withBuilder_goesAlike alike
  intro builder builderThere found foundThere related
  have same : builder.finding? around move = builderThere.finding? elsewhere other := by
    simpa [finding?, found, foundThere] using finding
  have moved := Builder.move?_looksAlike related moves paths same
  cases made : builder.move? around move with
  | none =>
      cases madeThere : builderThere.move? elsewhere other with
      | none => exact goesAlike_of_trace (alike.dropBuilder slot) rfl
      | some progress =>
          rw [made, madeThere] at moved
          cases moved
  | some progress =>
      cases madeThere : builderThere.move? elsewhere other with
      | none =>
          rw [made, madeThere] at moved
          cases moved
      | some progressThere =>
          rw [made, madeThere] at moved
          cases moved with
          | some moved => exact advance_goesAlike (alike.dropBuilder slot) next moved

theorem signClaims_showsAlike (issuer : Issuer) {claims claimsThere : Json} (choices : JwsChoices)
    (names : HaveSameNames (ClaimsCall.object claims).names (ClaimsCall.object claimsThere).names)
    (paths : around.source.paths = elsewhere.source.paths)
    (finding : ((issuer.claims.call around.now (.object claims)).toOption.bind fun _ =>
        some (issuer.config.finding .signing around.source choices.keyId)) =
      (issuer.claims.call elsewhere.now (.object claimsThere)).toOption.bind fun _ =>
        some (issuer.config.finding .signing elsewhere.source choices.keyId)) :
    (signClaims around issuer claims choices).ShowsAlike
      (signClaims elsewhere issuer claimsThere choices) := by
  rw [signClaims, signClaims]
  cases called : issuer.claims.call around.now (.object claims) with
  | error refused =>
      cases calledThere : issuer.claims.call elsewhere.now (.object claimsThere) with
      | error refusedThere =>
          have silent (problem : BuildError) (next : ClaimsBuilder → Build Token) :
              (Build.ofExcept (.error problem) >>= next).trace = [] := rfl
          exact Build.showsAlike_of_trace ((silent _ _).trans (silent _ _).symm)
      | ok builder => simp [called, calledThere, Except.toOption] at finding
  | ok builder =>
      cases calledThere : issuer.claims.call elsewhere.now (.object claimsThere) with
      | error refused => simp [called, calledThere, Except.toOption] at finding
      | ok builderThere =>
          have same : issuer.config.finding .signing around.source choices.keyId =
              issuer.config.finding .signing elsewhere.source choices.keyId := by
            simpa [called, calledThere, Except.toOption] using finding
          have related := ClaimsBuilder.looksLike_call issuer.claims_looksLike names called
            calledThere
          obtain ⟨finished, done⟩ := ClaimsBuilder.finish_done around builder
          obtain ⟨finishedThere, doneThere⟩ := ClaimsBuilder.finish_done elsewhere builderThere
          have signed := Jws.sign_looksLike issuer.config choices paths same finished finishedThere
          have taken (next : ClaimsBuilder) :
              (Build.ofExcept (.ok next)).outcome = .done next := rfl
          have silent : (Build.ofExcept (.ok builder)).trace =
              (Build.ofExcept (.ok builderThere)).trace := rfl
          exact .after_done silent (taken builder) (taken builderThere)
            (.after_done (related.finish_trace around elsewhere) done doneThere signed)

theorem signClaims_goesAlike (alike : here.LooksLike there) (name : String)
    {claims claimsThere : Json} (choices : JwsChoices)
    (names : HaveSameNames (ClaimsCall.object claims).names (ClaimsCall.object claimsThere).names)
    (paths : around.source.paths = elsewhere.source.paths)
    (finding : here.finding? around (.signClaims name claims choices) =
      there.finding? elsewhere (.signClaims name claimsThere choices)) :
    GoesAlike (here.step around (.signClaims name claims choices))
      (there.step elsewhere (.signClaims name claimsThere choices)) := by
  apply withIssuer_goesAlike alike name
  intro issuer found
  have same : ((issuer.claims.call around.now (.object claims)).toOption.bind fun _ =>
        some (issuer.config.finding .signing around.source choices.keyId)) =
      (issuer.claims.call elsewhere.now (.object claimsThere)).toOption.bind fun _ =>
        some (issuer.config.finding .signing elsewhere.source choices.keyId) := by
    simpa [finding?, found, ← alike.issuers] using finding
  have signed := signClaims_showsAlike issuer choices names paths same
  exact keep_goesAlike alike (signed.showsAlike _ _)

theorem encryptOctets_goesAlike (alike : here.LooksLike there) (name : String)
    (payload payloadThere : Bytes) (isNested : Bool) (choices : JweChoices)
    (paths : around.source.paths = elsewhere.source.paths)
    (finding : here.finding? around (.encryptOctets name payload isNested choices) =
      there.finding? elsewhere (.encryptOctets name payloadThere isNested choices)) :
    GoesAlike (here.step around (.encryptOctets name payload isNested choices))
      (there.step elsewhere (.encryptOctets name payloadThere isNested choices)) := by
  apply withIssuer_goesAlike alike name
  intro issuer found
  have same : issuer.config.finding .keyEncryption around.source choices.keyId =
      issuer.config.finding .keyEncryption elsewhere.source choices.keyId := by
    simpa [finding?, found, ← alike.issuers] using finding
  exact keep_goesAlike alike ((Jwe.encrypt_looksLike issuer.config choices paths same payload
    payloadThere isNested).showsAlike _ _)

theorem step_goesAlike (alike : here.LooksLike there) {command other : Command}
    (paths : around.source.paths = elsewhere.source.paths) (commands : command.LooksLike other)
    (finding : here.finding? around command = there.finding? elsewhere other) :
    GoesAlike (here.step around command) (there.step elsewhere other) := by
  cases commands with
  | call slot next names => exact move_goesAlike alike slot next (.call names) paths finding
  | signClaims name choices names =>
      exact signClaims_goesAlike alike name choices names paths finding
  | encryptOctets name left right isNested choices =>
      exact encryptOctets_goesAlike alike name left right isNested choices paths finding
  | same command =>
      cases command with
      | makeIssuer name config => exact install_goesAlike alike name _
      | cloneIssuer name copy =>
          exact withIssuer_goesAlike alike name fun issuer _ =>
            goesAlike_of_trace (alike.putIssuer copy issuer) rfl
      | config name =>
          exact withIssuer_goesAlike alike name fun issuer _ => goesAlike_of_trace alike rfl
      | setConfig name config =>
          exact withIssuer_goesAlike alike name fun issuer _ => install_goesAlike alike name _
      | updateConfig name edit =>
          apply withIssuer_goesAlike alike name
          intro issuer _
          cases edit issuer.config with
          | ok config => exact install_goesAlike alike name _
          | error problem => exact goesAlike_of_trace alike rfl
      | spec name role keyId =>
          exact withIssuer_goesAlike alike name fun issuer _ => goesAlike_of_trace alike rfl
      | resolveSigning name keyId =>
          apply withIssuer_goesAlike alike name
          intro issuer found
          have same : issuer.config.finding .signing around.source keyId =
              issuer.config.finding .signing elsewhere.source keyId := by
            simpa [finding?, found, ← alike.issuers] using finding
          apply keep_goesAlike_of_trace alike
          rw [Config.resolveSigning_trace, Config.resolveSigning_trace, paths, same]
      | resolveEncryption name keyId =>
          apply withIssuer_goesAlike alike name
          intro issuer found
          have same : issuer.config.finding .keyEncryption around.source keyId =
              issuer.config.finding .keyEncryption elsewhere.source keyId := by
            simpa [finding?, found, ← alike.issuers] using finding
          apply keep_goesAlike_of_trace alike
          rw [Config.resolveEncryption_trace, Config.resolveEncryption_trace, paths, same]
      | signClaims name claims choices =>
          exact signClaims_goesAlike alike name choices (fun _ => Iff.rfl) paths finding
      | encryptOctets name payload isNested choices =>
          exact encryptOctets_goesAlike alike name payload payload isNested choices paths finding
      | claims name slot =>
          apply withIssuer_goesAlike alike name
          intro issuer _
          exact goesAlike_of_trace (alike.putBuilder slot (.claims issuer.claims_looksLike)) rfl
      | cloneBuilder slot copy =>
          exact withClaims_goesAlike alike slot fun builder builderThere related =>
            goesAlike_of_trace (alike.putBuilder copy (.claims related)) rfl
      | preview slot =>
          apply withClaims_goesAlike alike slot
          intro builder builderThere related
          exact keep_goesAlike_of_trace alike (related.finish_trace around elsewhere)
      | inspect slot =>
          exact withBuilder_goesAlike alike slot fun _ _ _ _ _ => goesAlike_of_trace alike rfl
      | move slot next move => exact move_goesAlike alike slot next (.same move) paths finding

theorem trace_eq_of_runAlike {steps others : List (Surroundings × Command)}
    (runs : RunAlike here there steps others) (alike : here.LooksLike there) :
    traceOf (history steps here) = traceOf (history others there) := by
  induction runs with
  | done here there => rfl
  | step paths commands finding ends _ ih =>
      have goes := step_goesAlike alike paths commands finding
      obtain ⟨before, after, reports, reportsThere⟩ := goes.reply.log
      rw [traceOf_history_cons, traceOf_history_cons, reports.trace_eq reportsThere ends,
        ih (goes.next ends)]

end Steps

/-- Runs that differ in keys and in the values of claims report the same, event by event; and a
signing key is shown by its family alone. -/
theorem secrets_areHidden {steps others : List (Surroundings × Command)}
    (runs : RunAlike .empty .empty steps others) :
    traceOf (history steps .empty) = traceOf (history others .empty) ∧
      (∀ key, (SigningKey.rsa key).shown = "SigningKey(\"RSA\")") ∧
      (∀ scalar, (SigningKey.p256 scalar).shown = "SigningKey(\"EC P-256\")") ∧
      ∀ secret, (SigningKey.hmac secret).shown = "SigningKey(\"HMAC\")" := by
  have empty : Session.empty.LooksLike .empty := ⟨rfl, fun _ => .none⟩
  have quotedRsa : Text.quoted "RSA" = "\"RSA\"" := by decide +kernel
  have quotedP256 : Text.quoted "EC P-256" = "\"EC P-256\"" := by decide +kernel
  have quotedHmac : Text.quoted "HMAC" = "\"HMAC\"" := by decide +kernel
  refine ⟨trace_eq_of_runAlike runs empty, ?_, ?_, ?_⟩
  · intro key
    rw [SigningKey.shown, SigningKey.family, quotedRsa]
    rfl
  · intro scalar
    rw [SigningKey.shown, SigningKey.family, quotedP256]
    rfl
  · intro secret
    rw [SigningKey.shown, SigningKey.family, quotedHmac]
    rfl

section Secrets

variable (subject : String) (secret : Bytes)

def keeping : Surroundings :=
  { Surroundings.still with
    source := .ofMemory [("secret", (Jwk.ofSecret none secret).toJson.encode)] }

def telling : List (Surroundings × Command) :=
  [(keeping secret, .makeIssuer "desk" Jws.secretConfig), (keeping secret, .claims "desk" "token"),
    (keeping secret, .move "token" "token" (.call (.subject subject))),
    (keeping secret, .move "token" "token" .sign)]

def staffed : Session := ⟨[("desk", ⟨Jws.secretConfig⟩)], []⟩

def begun : Session :=
  ⟨[("desk", ⟨Jws.secretConfig⟩)], [("token", .claims ⟨Jws.secretConfig, []⟩)]⟩

def told : Session :=
  ⟨[("desk", ⟨Jws.secretConfig⟩)],
    [("token", .claims ⟨Jws.secretConfig, [("sub", .text subject)]⟩)]⟩

theorem keeping_resolved :
    (Jws.secretConfig.resolveSigning (keeping secret).source none).outcome =
      .done (.key (.hmac secret)) :=
  Config.resolveSigning_usable rfl rfl rfl (Jwk.read_ofSecret none secret)

theorem told_finding :
    (told subject).finding? (keeping secret) (.move "token" "token" .sign) =
      some (.key "HMAC") := by
  have found : (told subject).finding? (keeping secret) (.move "token" "token" .sign) =
      some (Jws.secretConfig.finding .signing (keeping secret).source none) := rfl
  rw [found, Config.finding, keeping_resolved secret]
  rfl

theorem told_signs (long : 32 ≤ secret.length) :
    ((told subject).step (keeping secret) (.move "token" "token" .sign)).2.IsDone := by
  have standing : (told subject).builders.get? "token" =
      some (.claims ⟨Jws.secretConfig, [("sub", .text subject)]⟩) := rfl
  obtain ⟨claims, signing⟩ := ClaimsBuilder.jws_done (keeping secret)
    ⟨Jws.secretConfig, [("sub", .text subject)]⟩
  obtain ⟨token, signed⟩ : ∃ token, (Jws.sign Jws.secretConfig (keeping secret).source claims
      .blank).outcome = .done token := Jws.sign_of_secret (keeping_resolved secret) rfl long
  have moved : Builder.move? (keeping secret) .sign
      (.claims ⟨Jws.secretConfig, [("sub", .text subject)]⟩) = some (do
        let signing ← ClaimsBuilder.jws (keeping secret)
          ⟨Jws.secretConfig, [("sub", .text subject)]⟩
        return .token (← signing.sign (keeping secret))) := rfl
  rw [step_move_reply standing, moved, replyTo]
  refine (Build.isDone_map_iff _ _).mpr (Build.isDone_bind_iff.mpr ⟨_, signing, ?_⟩)
  exact (Build.isDone_map_iff _ _).mpr ⟨token, signed⟩

theorem telling_runAlike (there : String) {secretThere : Bytes} (long : 32 ≤ secret.length)
    (longThere : 32 ≤ secretThere.length) :
    RunAlike .empty .empty (telling subject secret) (telling there secretThere) := by
  have opens (around : Surroundings) : Session.empty.step around
      (.makeIssuer "desk" Jws.secretConfig) = (staffed, pure (.config Jws.secretConfig)) := rfl
  have starts (around : Surroundings) :
      staffed.step around (.claims "desk" "token") = (begun, pure .done) := rfl
  have tells (around : Surroundings) (subject : String) :
      begun.step around (.move "token" "token" (.call (.subject subject))) =
        (told subject, pure .done) := rfl
  have paths (held : Bytes) : (keeping held).source.paths = fun _ => [] := rfl
  have same : (keeping secret).source.paths = (keeping secretThere).source.paths :=
    (paths secret).trans (paths secretThere).symm
  have keyless (session : Session) (name : String) (config : Config) (held : Bytes) :
      session.finding? (keeping held) (.makeIssuer name config) = none := rfl
  have idle (session : Session) (name slot : String) (held : Bytes) :
      session.finding? (keeping held) (.claims name slot) = none := rfl
  have calls (subject : String) (held : Bytes) : begun.finding? (keeping held)
      (.move "token" "token" (.call (.subject subject))) = none := rfl
  refine .step same (.same _) ((keyless _ _ _ _).trans (keyless _ _ _ _).symm)
    (by rw [opens, opens]) ?_
  rw [opens, opens]
  refine .step same (.same _) ((idle _ _ _ _).trans (idle _ _ _ _).symm)
    (by rw [starts, starts]) ?_
  rw [starts, starts]
  refine .step same (.call _ _ fun _ => Iff.rfl) ((calls _ _).trans (calls _ _).symm)
    (by rw [tells, tells]) ?_
  rw [tells, tells]
  exact .step same (.same _)
    ((told_finding subject secret).trans (told_finding there secretThere).symm)
    (iff_of_true (told_signs subject secret long) (told_signs there secretThere longThere))
    (.done _ _)

theorem secrets_areHidden_subjects :
    RunAlike .empty .empty (telling "ada" (List.replicate 32 7))
        (telling "bob" (List.replicate 40 9)) ∧
      Build.events (traceOf (history (telling "ada" (List.replicate 32 7)) .empty)) =
        Build.events (traceOf (history (telling "bob" (List.replicate 40 9)) .empty)) := by
  have runs : RunAlike .empty .empty (telling "ada" (List.replicate 32 7))
      (telling "bob" (List.replicate 40 9)) :=
    telling_runAlike "ada" (List.replicate 32 7) "bob" (by simp) (by simp)
  exact ⟨runs, congrArg Build.events (secrets_areHidden runs).1⟩

end Secrets

end Session

end Jose
