import Outreach.Run.Activity
import Outreach.Run.Services

/-!
# Authentication

The visitor gets a ticket for the contact of the run. Unless the ticket before was for the same
contact, the visitor also gets a new id without a name, so that two contacts are never linked by
one.
-/

namespace Outreach.Steps

variable {σ : Type}

/-- The lifetime of the tickets that an action gives out. -/
def lifetimeOf (services : Services σ) : Configuration -> Span
  | .authenticate (some seconds) => Span.ofSeconds32 seconds
  | _ => services.ticketLifetime

/-- The id without a name under which a ticket for a contact is given out. -/
def visitorId (services : Services σ) (context : Context) (contactId : ContactId) (world : σ) :
    Uuid × σ :=
  let sameContact := (context.ticket.map (fun ticket => ticket.contactId)) = some contactId
  match (if sameContact then context.anonymousId else none) with
  | some id => (id, world)
  | none => services.freshId world

/-- Give the visitor a ticket for the contact of the run. -/
def authenticate (services : Services σ) : Step σ := fun context world =>
  match context.contactId with
  | none => .finish .forbidden context world
  | some contactId =>
    if context.contactDeleted then .finish .failed context world
    else
      context.configured world (fun configuration =>
        let (anonymousId, world) := visitorId services context contactId world
        let now := services.now world
        match now.add? (lifetimeOf services configuration) with
        | none => .abort .overflow { context with anonymousId := some anonymousId } world
        | some expiresAt =>
          .finish .success
            { context with
              anonymousId := some anonymousId
              ticket := some ⟨contactId, anonymousId, now, expiresAt⟩ } world)

end Outreach.Steps
