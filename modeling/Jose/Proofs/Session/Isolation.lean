import Jose.Proofs.Alike
import Jose.Proofs.Session.Effect
import Mathlib.Data.List.Forall2

/-!
Builders on their own. In a session with many issuers and builders, a builder comes to what it comes
to alone, with a new issuer of the configuration that it started with.
-/

namespace Jose

structure Story where
  config : Config
  -- The last move comes first.
  moves : List (Surroundings × Move)

def Progress.reply : Progress → Reply
  | .builder _ => .done
  | .claims finished => .claims finished
  | .token made => .token made

inductive Reply.IsAlike : Reply → Reply → Prop
  | same (reply : Reply) : IsAlike reply reply
  | token {left right : Token} : left.IsAlike right → IsAlike (.token left) (.token right)

theorem Progress.IsAlike.reply {left right : Progress} (alike : left.IsAlike right) :
    left.reply.IsAlike right.reply := by
  cases alike with
  | same progress => exact .same _
  | token related => exact .token related

theorem Builder.move?_of_agree {left right : Surroundings} (agree : left.Agree right)
    {builder made : Builder} {move : Move} {progress : Build Progress}
    (moved : builder.move? left move = some progress)
    (done : progress.outcome = .done (.builder made)) :
    ∃ other, builder.move? right move = some other ∧ other.outcome = .done (.builder made) := by
  have alike := builder.move?_isAlike agree move
  rw [moved] at alike
  generalize builder.move? right move = answer at alike ⊢
  cases alike with
  | @some _ other related =>
      refine ⟨other, rfl, ?_⟩
      have ended := related.outcome
      rw [done] at ended
      generalize other.outcome = outcome at ended ⊢
      cases ended with
      | done same =>
          cases same with
          | same _ => rfl

namespace Session

section Moves

variable {session : Session} {around : Surroundings} {slot next : String} {move : Move}
  {builder made : Builder} {progress : Build Progress}

def replyTo : Option (Build Progress) → Build Reply
  | some progress => do return (← progress).reply
  | none => pure (.refused .wrongStage)

theorem advance_reply (session : Session) (next : String) (progress : Build Progress) :
    (session.advance next progress).2 = replyTo (some progress) := by
  obtain ⟨trace, outcome⟩ := progress
  cases outcome with
  | done made => cases made <;> simp [advance, replyTo, Progress.reply]
  | failed error => rfl
  | crashed => rfl

theorem step_move_reply (standing : session.builders.get? slot = some builder)
    (around : Surroundings) (next : String) (move : Move) :
    (session.step around (.move slot next move)).2 = replyTo (builder.move? around move) := by
  simp only [step, withBuilder, standing]
  cases moved : builder.move? around move with
  | some progress => exact advance_reply _ next progress
  | none => rfl

theorem step_move_builder (standing : session.builders.get? slot = some builder)
    (moved : builder.move? around move = some progress)
    (done : progress.outcome = .done (.builder made)) :
    (session.step around (.move slot next move)).1 =
      (session.dropBuilder slot).putBuilder next made := by
  simp only [step, withBuilder, standing, moved, advance, done]

theorem replyTo_isAlike {left right : Option (Build Progress)} (alike : Move.IsAlike left right) :
    Build.IsAlike Reply.IsAlike (replyTo left) (replyTo right) := by
  cases alike with
  | some related => exact related.bind fun _ _ same => Build.isAlike_pure same.reply
  | none => exact Build.isAlike_refl Reply.IsAlike.same _

end Moves

section Alone

/-- A new issuer, and a builder that goes through some moves, the last one given first. -/
def alone (start : Surroundings) (config : Config) (moves : List (Surroundings × Move)) : Session :=
  empty.after ([(start, .makeIssuer "issuer" config), (start, .claims "issuer" "builder")] ++
    moves.reverse.map fun step => (step.1, .move "builder" "builder" step.2))

theorem alone_cons (start : Surroundings) (config : Config) (step : Surroundings × Move)
    (earlier : List (Surroundings × Move)) :
    alone start config (step :: earlier) =
      ((alone start config earlier).step step.1 (.move "builder" "builder" step.2)).1 := by
  simp only [alone, List.reverse_cons, List.map_append, ← List.append_assoc, after_append]
  rfl

theorem alone_nil {config : Config} (valid : config.validate = .ok ()) (start : Surroundings) :
    (alone start config []).builders.get? "builder" = some (.claims (.make config)) := by
  have made : (empty.step start (.makeIssuer "issuer" config)).1 =
      empty.putIssuer "issuer" ⟨config⟩ := by
    simp [step, Issuer.make, valid, bind, Except.bind, pure, Except.pure, Build.ofExcept,
      Outcome.ofExcept, install]
  simp only [alone, after, List.reverse_nil, List.map_nil, List.append_nil, List.foldl_cons,
    List.foldl_nil, made]
  rfl

end Alone

def IsSameMove (left right : Surroundings × Move) : Prop :=
  left.1.Agree right.1 ∧ left.2 = right.2

def Explains (story : Story) (builder : Builder) : Prop :=
  ∀ start own, List.Forall₂ IsSameMove story.moves own →
    (alone start story.config own).builders.get? "builder" = some builder

theorem explains_started {config : Config} (valid : config.validate = .ok ()) :
    Explains ⟨config, []⟩ (.claims (.make config)) := by
  intro start own same
  cases same with
  | nil => exact alone_nil valid start

theorem Explains.moved {story : Story} {builder made : Builder} (explains : Explains story builder)
    {around : Surroundings} {move : Move} {progress : Build Progress}
    (moved : builder.move? around move = some progress)
    (done : progress.outcome = .done (.builder made)) :
    Explains { story with moves := (around, move) :: story.moves } made := by
  intro start own same
  cases same with
  | @cons _ step _ earlier first others =>
      obtain ⟨elsewhere, repeated⟩ := step
      obtain ⟨agree, rfl⟩ := first
      obtain ⟨other, movedThere, doneThere⟩ := Builder.move?_of_agree agree moved done
      rw [alone_cons, step_move_builder (explains start earlier others) movedThere doneThere]
      exact Members.get?_put _ _ _

section Stories

def story? (around : Surroundings) (session : Session) (stories : Members Story) :
    Command → Option (String × Story)
  | .claims name slot =>
      (session.issuers.get? name).map fun issuer => (slot, ⟨issuer.config, []⟩)
  | .cloneBuilder slot copy => (stories.get? slot).map fun story => (copy, story)
  | .move slot next move =>
      (stories.get? slot).map fun story =>
        (next, { story with moves := (around, move) :: story.moves })
  | _ => none

def tell (around : Surroundings) (session : Session) (stories : Members Story) (command : Command)
    (reply : Build Reply) : Members Story :=
  match reply.outcome, session.story? around stories command with
  | .done .done, some (slot, story) => stories.put slot story
  | _, _ => stories

def storiesAfter : List (Surroundings × Command) → Session → Members Story → Members Story
  | [], _, stories => stories
  | (around, command) :: rest, session, stories =>
      let result := session.step around command
      storiesAfter rest result.1 (session.tell around stories command result.2)

variable {around : Surroundings} {session : Session} {stories : Members Story} {command : Command}

theorem tell_of_idle {reply : Build Reply} (idle : IsIdle command reply) :
    session.tell around stories command reply = stories := by
  simp only [tell]
  split
  · next slot story done told =>
      have untargeted := idle done
      cases command <;> simp [Command.target?, story?] at untargeted told
  · rfl

theorem tell_done {reply : Build Reply} (done : reply.outcome = .done .done) {slot : String}
    {story : Story} (told : session.story? around stories command = some (slot, story)) :
    session.tell around stories command reply = stories.put slot story := by
  simp only [tell, done, told]

structure IsTold (session : Session) (stories : Members Story) : Prop where
  valid : session.Holds (fun issuer => issuer.config.validate = .ok ()) fun _ => True
  explained : ∀ slot builder, session.builders.get? slot = some builder →
    ∃ story, stories.get? slot = some story ∧ Explains story builder

theorem IsTold.putBuilder (told : IsTold session stories) (slot : String) {builder : Builder}
    {story : Story} (explains : Explains story builder) :
    IsTold (session.putBuilder slot builder) (stories.put slot story) where
  valid := told.valid.putBuilder slot trivial
  explained := by
    intro other standing present
    rw [Members.get?_put_eq]
    rcases Members.get?_put_cases present with ⟨rfl, rfl⟩ | ⟨apart, before⟩
    · exact ⟨story, if_pos rfl, explains⟩
    · rw [if_neg apart]
      exact told.explained other standing before

theorem IsTold.dropBuilder (told : IsTold session stories) (slot : String) :
    IsTold (session.dropBuilder slot) stories where
  valid := told.valid.dropBuilder slot
  explained other standing present :=
    told.explained other standing (Members.get?_of_drop present)

theorem IsTold.putIssuer (told : IsTold session stories) (name : String) {issuer : Issuer}
    (valid : issuer.config.validate = .ok ()) :
    IsTold (session.putIssuer name issuer) stories :=
  ⟨told.valid.putIssuer name valid, told.explained⟩

theorem Effect.isTold {result : Result} (effect : Effect around session command result)
    (told : IsTold session stories) :
    IsTold result.1 (session.tell around stories command result.2) := by
  cases effect with
  | kept idle =>
      rw [tell_of_idle idle]
      exact told
  | lost _ idle =>
      rw [tell_of_idle idle]
      exact told.dropBuilder _
  | installed names valid => exact told.putIssuer _ valid
  | copiedIssuer found => exact told.putIssuer _ (told.valid.issuer _ _ found)
  | @started name slot issuer found =>
      have begun : session.story? around stories (.claims name slot) =
          some (slot, ⟨issuer.config, []⟩) := by
        simp only [story?, found, Option.map_some]
      rw [tell_done rfl begun]
      exact told.putBuilder _ (explains_started (told.valid.issuer _ _ found))
  | @copied slot copy builder found =>
      obtain ⟨story, present, explains⟩ := told.explained _ _ found
      have passed : session.story? around stories (.cloneBuilder slot copy) =
          some (copy, story) := by
        simp only [story?, present, Option.map_some]
      rw [tell_done rfl passed]
      exact told.putBuilder _ explains
  | @moved slot next move _ _ _ standing moved done =>
      obtain ⟨story, present, explains⟩ := told.explained _ _ standing
      have continued : session.story? around stories (.move slot next move) =
          some (next, { story with moves := (around, move) :: story.moves }) := by
        simp only [story?, present, Option.map_some]
      rw [tell_done rfl continued]
      exact (told.dropBuilder _).putBuilder _ (explains.moved moved done)

theorem after_isTold (steps : List (Surroundings × Command)) (told : IsTold session stories) :
    IsTold (session.after steps) (storiesAfter steps session stories) := by
  induction steps generalizing session stories with
  | nil => exact told
  | cons step rest ih => exact ih ((session.step_effect step.1 step.2).isTold told)

theorem empty_isTold : IsTold empty [] where
  valid := empty_holds
  explained := by simp [empty, Members.get?]

end Stories

theorem step_cloneIssuer {session : Session} {name : String} {issuer : Issuer}
    (present : session.issuers.get? name = some issuer) (around : Surroundings) (copy : String) :
    (session.step around (.cloneIssuer name copy)).1.issuers.get? copy = some issuer := by
  simp only [step, withIssuer, present, keep, putIssuer, Members.get?_put]

/-- Each builder stands and answers as it does alone. No command touches an issuer or a builder that
it does not name, and a copy of an issuer holds what the issuer holds. -/
theorem step_isIsolated :
    (∀ (steps : List (Surroundings × Command)) slot builder,
      (empty.after steps).builders.get? slot = some builder →
        ∃ story, (storiesAfter steps empty []).get? slot = some story ∧
          ∀ start own, List.Forall₂ IsSameMove story.moves own →
            (alone start story.config own).builders.get? "builder" = some builder ∧
              ∀ left right : Surroundings, left.Agree right → ∀ next move,
                Build.IsAlike Reply.IsAlike
                  ((empty.after steps).step left (.move slot next move)).2
                  ((alone start story.config own).step right
                    (.move "builder" "builder" move)).2) ∧
      ∀ (around : Surroundings) (session : Session),
        (∀ name copy issuer, session.issuers.get? name = some issuer →
          (session.step around (.cloneIssuer name copy)).1.issuers.get? copy = some issuer) ∧
        ∀ command : Command,
          (∀ other, command.issuer? ≠ some other →
            (session.step around command).1.issuers.get? other = session.issuers.get? other) ∧
          ∀ other, command.slot? ≠ some other → command.target? ≠ some other →
            (session.step around command).1.builders.get? other =
              session.builders.get? other := by
  constructor
  · intro steps slot builder standing
    -- The builder is the same in both sessions, so that one more move ends alike.
    obtain ⟨story, told, explains⟩ := (after_isTold steps empty_isTold).explained _ _ standing
    refine ⟨story, told, ?_⟩
    intro start own same
    refine ⟨explains start own same, ?_⟩
    intro left right agree next move
    rw [step_move_reply standing, step_move_reply (explains start own same)]
    exact replyTo_isAlike (builder.move?_isAlike agree move)
  · intro around session
    constructor
    · intro name copy issuer present
      exact step_cloneIssuer present around copy
    · intro command
      have effect := session.step_effect around command
      exact ⟨fun _ => effect.issuer_frame, fun _ => effect.builder_frame⟩

def overtaken : List (Surroundings × Command) :=
  [(.bare, .makeIssuer "main" .standard), (.bare, .claims "main" "early"),
    (.bare, .updateConfig "main" fun config => .ok { config with lifespan := 60 }),
    (.bare, .move "early" "early" (.call (.subject "ada")))]

theorem step_isIsolated_overtaken :
    (empty.after overtaken).issuers.get? "main" =
        some ⟨{ Config.standard with lifespan := 60 }⟩ ∧
      (storiesAfter overtaken empty []).get? "early" =
        some ⟨.standard, [(.bare, .call (.subject "ada"))]⟩ ∧
      Build.IsAlike Reply.IsAlike
        ((empty.after overtaken).step .bare (.move "early" "early" .finish)).2
        ((alone .bare .standard [(.bare, .call (.subject "ada"))]).step .bare
          (.move "builder" "builder" .finish)).2 ∧
      ((empty.after overtaken).step .bare (.setConfig "main" .standard)).1.builders.get? "early" =
        (empty.after overtaken).builders.get? "early" := by
  obtain ⟨explained, frame⟩ := step_isIsolated
  have standing : (empty.after overtaken).builders.get? "early" =
      some (.claims ⟨.standard, [("sub", .text "ada")]⟩) := rfl
  have told : (storiesAfter overtaken empty []).get? "early" =
      some ⟨.standard, [(.bare, .call (.subject "ada"))]⟩ := rfl
  obtain ⟨story, found, alone⟩ := explained overtaken "early" _ standing
  obtain rfl := Option.some.inj (found.symm.trans told)
  have same : List.Forall₂ IsSameMove [((.bare : Surroundings), .call (.subject "ada"))]
      [(.bare, .call (.subject "ada"))] := .cons ⟨.refl _, rfl⟩ .nil
  refine ⟨rfl, told, ?_, ?_⟩
  · exact (alone .bare _ same).2 .bare .bare (.refl _) "early" .finish
  · exact ((frame .bare (empty.after overtaken)).2 (.setConfig "main" .standard)).2 "early"
      (by decide) (by decide)

end Session

end Jose
