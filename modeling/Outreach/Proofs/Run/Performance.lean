import Outreach.Proofs.Run.Conduct

/-!
# What a step does with its configuration

A step asks for the configuration of the action that is being carried out, and it is prepared for
options that say none and for a configuration of another kind. `perform` says what remains of the
steps of all kinds once a configuration is given. Where the options say a configuration it is one of
the kind of the action (`Configuration.kind_of_parse`), so the step of the action does what remains
and nothing else (`forKind_eq_perform`).
-/

namespace Outreach

variable {σ : Type}

namespace Configuration

theorem of_map_ok {α : Type} {made : α -> Configuration} {read : Except ConfigurationError α}
    {configuration : Configuration} (said : read.map made = .ok configuration) :
    ∃ value, configuration = made value := by
  cases read with
  | error cause => cases said
  | ok value => exact ⟨value, (Except.ok.inj said).symm⟩

theorem of_bind_ok {α : Type} {made : α -> Except ConfigurationError Configuration}
    {read : Except ConfigurationError α} {configuration : Configuration}
    (said : read.bind made = .ok configuration) : ∃ value, made value = .ok configuration := by
  cases read with
  | error cause => cases said
  | ok value => exact ⟨value, said⟩

/-- What options say is a configuration of the kind that they are read for. -/
theorem kind_of_parse {kind : ActionKind} {options : Json} {configuration : Configuration}
    (said : parse kind options = .ok configuration) : configuration.kind = kind := by
  cases kind with
  | sequence => cases said; rfl
  | control => cases said; rfl
  | register => cases said; rfl
  | unregister => cases said; rfl
  | condition => obtain ⟨clauses, rfl⟩ := of_map_ok said; rfl
  | authenticate => obtain ⟨lifetime, rfl⟩ := of_map_ok said; rfl
  | setTags => obtain ⟨tags, rfl⟩ := of_map_ok said; rfl
  | sendMail => obtain ⟨template, rfl⟩ := of_map_ok said; rfl
  | log => obtain ⟨log, rfl⟩ := of_map_ok said; rfl
  | redirect =>
    obtain ⟨url, made⟩ := of_bind_ok said
    unfold ofUrl at made
    split at made
    · cases made
    · cases made
      rfl
  | schedule =>
    obtain ⟨timing, made⟩ := of_bind_ok said
    unfold ofTiming at made
    split at made
    · cases made
      rfl
    · cases made

end Configuration

namespace Steps

/-- What the step of an action does if the options of the action say a configuration. -/
def perform (services : Services σ) : Configuration -> Step σ
  | .sequence => container
  | .control => container
  | .condition clauses => fun context world =>
    .ofReply (evaluate services context clauses world) context
      (fun verdict world => .finish (if verdict.passed then .success else .failed) context world)
  | .authenticate lifetimeSeconds => fun context world =>
    match context.contactId with
    | none => .finish .forbidden context world
    | some contactId =>
      if context.contactDeleted then .finish .failed context world
      else
        let lifetime := match lifetimeSeconds with
          | some seconds => Span.ofSeconds32 seconds
          | none => services.ticketLifetime
        let (anonymousId, world) := visitorId services context contactId world
        let now := services.now world
        match now.add? lifetime with
        | none => .abort .overflow { context with anonymousId := some anonymousId } world
        | some expiresAt =>
          .finish .success
            { context with
              anonymousId := some anonymousId
              ticket := some ⟨contactId, anonymousId, now, expiresAt⟩ } world
  | .register => register services
  | .unregister => unregister services
  | .setTags included excluded => fun context world =>
    match context.liveContactId with
    | none => .finish .failed context world
    | some id =>
      .ofReply (services.setTags id included excluded world) context
        (fun updated world =>
          .finish .success
            { context with contact := some updated, contactState := .modified } world)
  | .sendMail templateId => fun context world =>
    match context.contact with
    | none => .finish .failed context world
    | some contact =>
      if !context.hasLiveContact then .finish .failed context world
      else
        .ofReply (services.findTemplate templateId world) context (fun template world =>
          match template with
          | none => .finish .failed context world
          | some template =>
            .ofReply (services.findProject context.project.id world) context
              (fun project world =>
                match project with
                | none => .finish .failed context world
                | some project =>
                  .ofReply (services.send project (mailHeader context contact) template world)
                    context (fun _ world => .finish .success context world)))
  | .redirect authored => fun context world =>
    match redirectUrl? (services.mapping world) context (services.now world) authored with
    | some url => .finish (.redirect url.text) context world
    | none =>
      .finish (.failedWith ("cannot resolve redirect target '" ++ authored ++ "'")) context world
  | .schedule timing => fun context world =>
    if !context.hasLiveContact then .finish .failed context world
    else
      match timing.target? (services.now world) with
      | none => .finish (.failedWith "schedule target is out of range") context world
      | some runAt =>
        match services.schedule runAt (continuationOf context) world with
        | (.ok (), world) => .finish .suspended context world
        | (.error cause, world) => .finish (.failedWith cause.message) context world
  | .log anonymous name => fun context world =>
    if !anonymous && !context.contactExists then .finish .failed context world
    else
      .ofReply
        (services.record (assembleEvent context (services.now world) anonymous name)
          context.project.recipients world)
        context
        (fun review world =>
          if review.accepts then .finish .success context world
          else .finish (.failedWith (String.intercalate "; " review.complaints)) context world)

variable {context : Context} {configuration : Configuration}

/-- A step that reads its configuration does what is to be done with it. -/
theorem configured_eq (said : context.currentAction.configuration = .ok configuration) (world : σ)
    (next : Configuration -> StepResult σ) :
    context.configured world next = next configuration := by
  unfold Context.configured
  rw [said]

/-- Where the options of the current action say a configuration of a kind, the step of that kind
neither finds fault with the options nor meets a configuration of another kind. -/
theorem forKind_eq_perform (services : Services σ)
    (said : context.currentAction.configuration = .ok configuration) (world : σ) :
    forKind services configuration.kind context world =
      perform services configuration context world := by
  have asked := configured_eq said world
  cases configuration with
  | sequence => rfl
  | control => rfl
  | register => rfl
  | unregister => rfl
  | condition clauses => exact asked _
  | redirect authored => exact asked _
  | log anonymous name => exact asked _
  | authenticate lifetimeSeconds =>
    change authenticate services context world = _
    unfold authenticate perform
    dsimp only
    cases context.contactId with
    | none => rfl
    | some contactId =>
      cases context.contactDeleted with
      | true => rfl
      | false => cases lifetimeSeconds <;> exact asked _
  | setTags included excluded =>
    change setTags services context world = _
    unfold setTags perform
    dsimp only
    cases context.liveContactId with
    | none => rfl
    | some id => exact asked _
  | sendMail templateId =>
    change sendMail services context world = _
    unfold sendMail perform
    dsimp only
    cases context.contact with
    | none => rfl
    | some contact =>
      cases context.hasLiveContact with
      | false => rfl
      | true => exact asked _
  | schedule timing =>
    change schedule services context world = _
    unfold schedule perform
    dsimp only
    cases context.hasLiveContact with
    | false => rfl
    | true => exact asked _

/-- An action that is configured behaves as its kind does. -/
theorem conduct_perform (services : Services σ)
    (said : context.currentAction.configuration = .ok configuration) (world : σ) :
    Conduct services (fun _ _ => True) configuration.kind context world
      (perform services configuration context world) := by
  rw [← forKind_eq_perform services said]
  exact conduct_forKind services.keeps_any context world configuration.kind

end Steps

end Outreach
