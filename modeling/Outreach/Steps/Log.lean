import Outreach.Run.Activity
import Outreach.Run.Services

/-!
# Logging

The event of the run is recorded, filled in with what the run knows. An anonymous event does not
say who the contact is.
-/

namespace Outreach.Steps

variable {σ : Type}

/-- The event of a run as it is recorded. -/
def assembleEvent (context : Context) (now : Instant) (anonymous : Bool) (name : Option String) :
    Event :=
  let event := context.event
  { event with
    id := none
    deleted := false
    ownerId := context.project.ownerId
    projectId := some context.project.id
    actionId := some context.currentAction.id
    contactState := context.contactState
    name := some (name.getD context.currentAction.name)
    startDate := some (event.startDate.getD now)
    clientId := event.clientId.or (context.anonymousId.map Uuid.text)
    contactId :=
      if anonymous then none
      else match context.contact with
        | some contact => contact.id
        | none => event.contactId
    contactMail :=
      if anonymous then none
      else match context.contact with
        | some contact => some contact.email
        | none => event.contactMail }

/-- Record the event of the run. Without a stored contact only an anonymous event is recorded. -/
def log (services : Services σ) : Step σ := fun context world =>
  context.configured world (fun configuration =>
    match configuration with
    | .log anonymous name =>
      if !anonymous && !context.contactExists then .finish .failed context world
      else
        .ofReply
          (services.record (assembleEvent context (services.now world) anonymous name)
            context.project.recipients world)
          context
          (fun review world =>
            if review.accepts then .finish .success context world
            else
              .finish (.failedWith (String.intercalate "; " review.complaints)) context world)
    | _ => .finish .failed context world)

end Outreach.Steps
