import Outreach.Run.Activity
import Outreach.Run.Services

/-!
# Steps on the contact

Storing the contact of a run, deleting it, and changing its tags. A run that has deleted its
contact changes it no more.
-/

namespace Outreach.Steps

variable {σ : Type}

/-- Store the contact in the project of the run. A contact with an id replaces the stored one. -/
def register (services : Services σ) : Step σ := fun context world =>
  if context.contactDeleted then .finish .failed context world
  else
    match context.contact with
    | none => .finish (.failedWith "no contact data to register") context world
    | some contact =>
      let state := if contact.id.isSome then ContactState.modified else .added
      match services.storeContact { contact with projectId := context.project.id } world with
      | none => .abort .overflow context world
      | some reply =>
        .ofReply reply context (fun stored world =>
          .finish .success { context with contact := some stored, contactState := state } world)

/-- Delete the stored contact from the project of the run. -/
def unregister (services : Services σ) : Step σ := fun context world =>
  match context.liveContactId with
  | none => .finish .failed context world
  | some id =>
    .ofReply (services.removeContact context.project.id id world) context
      (fun _ world => .finish .success { context with contactState := .deleted } world)

/-- Give tags to the stored contact and take tags from it. -/
def setTags (services : Services σ) : Step σ := fun context world =>
  match context.liveContactId with
  | none => .finish .failed context world
  | some id =>
    context.configured world (fun configuration =>
      match configuration with
      | .setTags included excluded =>
        .ofReply (services.setTags id included excluded world) context
          (fun updated world =>
            .finish .success
              { context with contact := some updated, contactState := .modified } world)
      | _ => .finish .failed context world)

end Outreach.Steps
