import Outreach.Steps.Registry

/-!
# How a step ends

A step may ask its services for several things, but at most one of its requests changes anything
that runs share: a contact is stored, deleted or tagged, a mail is sent, a continuation is handed
over, or the visitor gets a ticket. That request is the last one, and the step succeeds exactly if
it is answered; only a step that hands over counts as failed then, with the flow that says so. All
that comes before are questions and requests that are refused. `Ending` lists these endings,
`ending_forKind` finds one of them for the steps of all kinds, and what is to be known of every step
is read off the list.
-/

namespace Outreach

variable {σ : Type}

/-- Requests that only ask, and requests that are refused, relate the surroundings before and after
them. To record an event counts as asking. -/
structure Services.Spares (services : Services σ) (Related : σ -> σ -> Prop) : Prop where
  refl : forall world, Related world world
  trans : forall {first second third : σ}, Related first second -> Related second third ->
    Related first third
  findProject : forall id world, Related world (services.findProject id world).2
  hasTags : forall id included excluded world,
    Related world (services.hasTags id included excluded world).2
  findTemplate : forall id world, Related world (services.findTemplate id world).2
  record : forall event users world, Related world (services.record event users world).2
  storeContact : forall contact world cause after,
    services.storeContact contact world = some (.error cause, after) -> Related world after
  removeContact : forall project id world cause,
    (services.removeContact project id world).1 = .error cause ->
      Related world (services.removeContact project id world).2
  setTags : forall id included excluded world cause,
    (services.setTags id included excluded world).1 = .error cause ->
      Related world (services.setTags id included excluded world).2
  send : forall project header template world cause,
    (services.send project header template world).1 = .error cause ->
      Related world (services.send project header template world).2

namespace Steps

/-- The answer of a step that came to nothing: it failed or was not allowed, or a service does not
work. -/
inductive Fruitless : Except StepFault Outcome -> Prop where
  | failed : Fruitless (.ok .failed)
  | failedWith (detail : String) : Fruitless (.ok (.failedWith detail))
  | forbidden : Fruitless (.ok .forbidden)
  | service (cause : ServiceError) : Fruitless (.error (.service cause))

/-- What comes to nothing is no success and stops the run at its action. -/
theorem Fruitless.stops {outcome : Outcome} (nothing : Fruitless (.ok outcome)) :
    outcome.status ≠ .success ∧ outcome.flow = .stop := by
  cases nothing <;> exact ⟨nofun, rfl⟩

/-- There is no id left for the contact of a run. -/
def Exhausted (services : Services σ) (context : Context) (world : σ) : Prop :=
  ∃ contact, context.contact = some contact ∧
    services.storeContact { contact with projectId := context.project.id } world = none

/-- How the step of a kind can end. -/
inductive Ending (services : Services σ) (Related : σ -> σ -> Prop) (kind : ActionKind)
    (context : Context) (world : σ) (result : StepResult σ) : Prop where
  /-- Nothing came of it. -/
  | fruitless (answer : Except StepFault Outcome) (after : σ) (nothing : Fruitless answer)
      (asked : Related world after) (ends : result = ⟨answer, context, after, false⟩)
  /-- It succeeded, and there was nothing to change. -/
  | passed (outcome : Outcome) (after : σ) (isKind : kind ≠ .authenticate)
      (status : outcome.status = .success) (flow : outcome.flow = .proceed)
      (asked : Related world after) (ends : result = .finish outcome context after)
  /-- A mail was sent. -/
  | mailed (between after : σ) (project : Project) (header : MailHeader) (template : MailTemplate)
      (isKind : kind = .sendMail) (asked : Related world between)
      (accepted : services.send project header template between = (.ok (), after))
      (ends : result = .finish .success context after)
  /-- The visitor got a ticket. -/
  | authenticated (id : ContactId) (visitor : Uuid) (expiresAt : Instant) (after : σ)
      (isKind : kind = .authenticate) (isId : context.contactId = some id)
      (identified : visitorId services context id world = (visitor, after))
      (ends : result = .finish .success
        { context with
          anonymousId := some visitor
          ticket := some ⟨id, visitor, services.now after, expiresAt⟩ } after)
  /-- The ticket would have expired at an instant out of range. -/
  | overflowed (id : ContactId) (visitor : Uuid) (after : σ) (isKind : kind = .authenticate)
      (isId : context.contactId = some id)
      (identified : visitorId services context id world = (visitor, after))
      (ends : result = .abort .overflow { context with anonymousId := some visitor } after)
  /-- The contact was stored, and the stored one took its place. -/
  | registered (contact stored : Contact) (after : σ) (isKind : kind = .register)
      (given : context.contact = some contact)
      (accepted : services.storeContact { contact with projectId := context.project.id } world =
        some (.ok stored, after))
      (ends : result = .finish .success
        { context with
          contact := some stored
          contactState := if contact.id.isSome then .modified else .added } after)
  /-- There was no id left for the contact. -/
  | exhausted (isKind : kind = .register) (exhausted : Exhausted services context world)
      (ends : result = .abort .overflow context world)
  /-- The contact was deleted. -/
  | unregistered (id : ContactId) (after : σ) (isKind : kind = .unregister)
      (live : context.liveContactId = some id)
      (accepted : services.removeContact context.project.id id world = (.ok (), after))
      (ends : result = .finish .success { context with contactState := .deleted } after)
  /-- The tags of the contact were changed, and the changed one took its place. -/
  | tagged (id : ContactId) (included excluded : List TagId) (updated : Contact) (after : σ)
      (isKind : kind = .setTags) (live : context.liveContactId = some id)
      (accepted : services.setTags id included excluded world = (.ok updated, after))
      (ends : result = .finish .success
        { context with contact := some updated, contactState := .modified } after)
  /-- The actions below were handed over. -/
  | handedOver (runAt : Instant) (after : σ) (isKind : kind = .schedule)
      (accepted : services.schedule runAt (continuationOf context) world = (.ok (), after))
      (ends : result = .finish .suspended context after)
  /-- The actions below were to be handed over, which was refused. -/
  | turnedDown (runAt : Instant) (cause : ServiceError) (after : σ) (isKind : kind = .schedule)
      (refused : services.schedule runAt (continuationOf context) world = (.error cause, after))
      (ends : result = .finish (.failedWith cause.message) context after)

variable {services : Services σ} {Related : σ -> σ -> Prop} {kind : ActionKind}
  {context : Context} {world after : σ}

section Results

/-- A step that fails after it has asked for something. -/
theorem Ending.failed {outcome : Outcome} (nothing : Fruitless (.ok outcome))
    (asked : Related world after) :
    Ending services Related kind context world (.finish outcome context after) :=
  .fruitless _ _ nothing asked rfl

/-- A step that succeeds after it has asked for something. -/
theorem Ending.succeeded (isKind : kind ≠ .authenticate) (asked : Related world after) :
    Ending services Related kind context world (.finish .success context after) :=
  .passed _ _ isKind rfl rfl asked rfl

/-- A step that is refused what it asked for. -/
theorem Ending.refused (cause : ServiceError) (asked : Related world after) :
    Ending services Related kind context world (.refused cause context after) := by
  cases cause with
  | notFound entity id => exact .failed (.failedWith _) asked
  | validation reasons => exact .failed (.failedWith _) asked
  | backend detail => exact .fruitless _ _ (.service _) asked rfl

/-- A step that goes on with the answer to a request. -/
theorem Ending.ofReply {α : Type} {reply : Reply σ α} {next : α -> σ -> StepResult σ}
    (refused : forall cause, reply.1 = .error cause -> Related world reply.2)
    (answered : forall answer, reply = (.ok answer, reply.2) ->
      Ending services Related kind context world (next answer reply.2)) :
    Ending services Related kind context world (.ofReply reply context next) := by
  obtain ⟨answer, after⟩ := reply
  cases answer with
  | ok answer => exact answered answer rfl
  | error cause => exact .refused cause (refused cause rfl)

end Results

section Kinds

variable (spares : services.Spares Related)

include spares

/-- A step that fails before it has asked for anything. -/
theorem Ending.idle {outcome : Outcome} (nothing : Fruitless (.ok outcome)) :
    Ending services Related kind context world (.finish outcome context world) :=
  .failed nothing (spares.refl world)

/-- A step that first reads its configuration. -/
theorem Ending.configured {next : Configuration -> StepResult σ}
    (ending : forall configuration,
      Ending services Related kind context world (next configuration)) :
    Ending services Related kind context world (context.configured world next) := by
  unfold Context.configured
  split
  · exact ending _
  · exact .idle spares (.failedWith _)

/-- To evaluate clauses is to ask for the tags at most. -/
theorem related_evaluate (clauses : List Clause) :
    Related world (evaluate services context clauses world).2 := by
  unfold evaluate
  split
  · exact spares.refl world
  · rename_i demand _
    split
    · exact spares.refl world
    · split
      · exact spares.refl world
      · rename_i id _
        have related := spares.hasTags id demand.included demand.excluded world
        split
        · rename_i answered
          rw [answered] at related
          exact related
        · rename_i refused
          rw [refused] at related
          exact related

/-- A condition passes, or it comes to nothing. -/
theorem ending_condition :
    Ending services Related .condition context world (condition services context world) := by
  refine .configured spares (fun configuration => ?_)
  split
  · rename_i clauses
    have asked : Related world (evaluate services context clauses world).2 :=
      related_evaluate spares clauses
    refine .ofReply (fun _ _ => asked) (fun verdict _ => ?_)
    cases verdict.passed with
    | true => exact .succeeded nofun asked
    | false => exact .failed .failed asked
  · exact .idle spares .failed

/-- The visitor gets a ticket unless there is no contact, it is deleted or the ticket would expire
out of range. -/
theorem ending_authenticate :
    Ending services Related .authenticate context world (authenticate services context world) := by
  unfold authenticate
  split
  · exact .idle spares .forbidden
  · rename_i id isId
    split
    · exact .idle spares .failed
    · refine .configured spares (fun configuration => ?_)
      dsimp only
      split
      · exact .overflowed id _ _ rfl isId rfl rfl
      · rename_i expiresAt _
        exact .authenticated id _ expiresAt _ rfl isId rfl rfl

/-- The contact is stored unless there is none, it is deleted, it is refused or no id is left for
it. -/
theorem ending_register :
    Ending services Related .register context world (register services context world) := by
  unfold register
  split
  · exact .idle spares .failed
  · split
    · exact .idle spares (.failedWith _)
    · rename_i contact given
      dsimp only
      split
      · rename_i none
        exact .exhausted rfl ⟨contact, given, none⟩ rfl
      · rename_i reply answered
        refine .ofReply (fun cause refused => ?_) (fun stored accepted => ?_)
        · exact spares.storeContact _ _ cause _ (answered.trans (congrArg some (Prod.ext refused rfl)))
        · exact .registered contact stored _ rfl given (answered.trans (congrArg some accepted)) rfl

/-- The contact is deleted unless it is not live or the deletion is refused. -/
theorem ending_unregister :
    Ending services Related .unregister context world (unregister services context world) := by
  unfold unregister
  split
  · exact .idle spares .failed
  · rename_i id live
    exact .ofReply (spares.removeContact _ _ _) (fun _ accepted =>
      .unregistered id _ rfl live accepted rfl)

/-- The tags are changed unless the contact is not live or the change is refused. -/
theorem ending_setTags :
    Ending services Related .setTags context world (setTags services context world) := by
  unfold setTags
  split
  · exact .idle spares .failed
  · rename_i id live
    refine .configured spares (fun configuration => ?_)
    split
    · rename_i included excluded
      exact .ofReply (spares.setTags _ _ _ _) (fun updated accepted =>
        .tagged id included excluded updated _ rfl live accepted rfl)
    · exact .idle spares .failed

/-- A mail is sent unless it has no addressee, its template or its project is missing or it is
refused. -/
theorem ending_sendMail :
    Ending services Related .sendMail context world (sendMail services context world) := by
  unfold sendMail
  split
  · exact .idle spares .failed
  · rename_i contact _
    split
    · exact .idle spares .failed
    · refine .configured spares (fun configuration => ?_)
      split
      · rename_i templateId
        have looked := spares.findTemplate templateId world
        refine .ofReply (fun _ _ => looked) (fun found _ => ?_)
        split
        · exact .failed .failed looked
        · rename_i template _
          have looked := spares.trans looked (spares.findProject context.project.id _)
          refine .ofReply (fun _ _ => looked) (fun found _ => ?_)
          split
          · exact .failed .failed looked
          · rename_i project _
            exact .ofReply (fun cause unsent => spares.trans looked (spares.send _ _ _ _ cause unsent))
              (fun _ accepted => .mailed _ _ project _ template rfl looked accepted rfl)
      · exact .idle spares .failed

/-- A redirection passes with its address, or it comes to nothing. -/
theorem ending_redirect :
    Ending services Related .redirect context world (redirect services context world) := by
  refine .configured spares (fun configuration => ?_)
  split
  · split
    · exact .passed _ _ nofun rfl rfl (spares.refl world) rfl
    · exact .idle spares (.failedWith _)
  · exact .idle spares .failed

/-- An event is recorded, which counts as asking. -/
theorem ending_log :
    Ending services Related .log context world (log services context world) := by
  refine .configured spares (fun configuration => ?_)
  split
  · rename_i anonymous name
    split
    · exact .idle spares .failed
    · have asked := spares.record (assembleEvent context (services.now world) anonymous name)
        context.project.recipients world
      refine .ofReply (fun _ _ => asked) (fun review _ => ?_)
      split
      · exact .succeeded nofun asked
      · exact .failed (.failedWith _) asked
  · exact .idle spares .failed

/-- The actions below are handed over, or that is refused, or nothing is asked for. -/
theorem ending_schedule :
    Ending services Related .schedule context world (schedule services context world) := by
  unfold schedule
  split
  · exact .idle spares .failed
  · refine .configured spares (fun configuration => ?_)
    split
    · split
      · exact .idle spares (.failedWith _)
      · rename_i runAt _
        split
        · rename_i accepted
          exact .handedOver runAt _ rfl accepted rfl
        · rename_i refused
          exact .turnedDown runAt _ _ rfl refused rfl
    · exact .idle spares .failed

/-- The steps of all kinds end in one of these ways. -/
theorem ending_forKind (context : Context) (world : σ) (kind : ActionKind) :
    Ending services Related kind context world (forKind services kind context world) := by
  cases kind with
  | sequence => exact .succeeded nofun (spares.refl world)
  | control => exact .succeeded nofun (spares.refl world)
  | condition => exact ending_condition spares
  | authenticate => exact ending_authenticate spares
  | register => exact ending_register spares
  | unregister => exact ending_unregister spares
  | setTags => exact ending_setTags spares
  | sendMail => exact ending_sendMail spares
  | redirect => exact ending_redirect spares
  | schedule => exact ending_schedule spares
  | log => exact ending_log spares

end Kinds

end Steps

end Outreach
