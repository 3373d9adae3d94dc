import Outreach.Events.Review
import Outreach.Mail
import Outreach.Run.Context
import Outreach.ServiceError
import Outreach.Url.Host

/-!
# The services around a run

Everything a step asks of its surroundings. The state of the surroundings is of any type; a
request answers or is refused, and leaves a new state.
-/

namespace Outreach

/-- What steps may ask of surroundings with states of the type `σ`. -/
structure Services (σ : Type) where
  /-- The present instant. -/
  now : σ -> Instant
  /-- How long a ticket is valid unless its action says otherwise. -/
  ticketLifetime : Span
  /-- How internationalized domains are mapped. -/
  mapping : σ -> Host.Mapping
  /-- An id for a visitor without a name. -/
  freshId : σ -> Uuid × σ
  /-- A project. -/
  findProject : ProjectId -> σ -> Reply σ (Option Project)
  /-- An action with its present children. -/
  findAction : ActionId -> σ -> Reply σ (Option Action)
  /-- Whether a stored contact has all tags of the first set and none of the second. -/
  hasTags : ContactId -> IdSet -> IdSet -> σ -> Reply σ Bool
  /-- Store a contact: a new one without an id, in place of the stored one otherwise. There is no
  answer if no id is left for a new one: then nothing is stored, and nothing goes on after that. -/
  storeContact : Contact -> σ -> Option (Reply σ Contact)
  /-- Delete a stored contact of a project. -/
  removeContact : ProjectId -> ContactId -> σ -> Reply σ Unit
  /-- Give tags to a stored contact, then take tags from it. -/
  setTags : ContactId -> List TagId -> List TagId -> σ -> Reply σ Contact
  /-- A mail template. -/
  findTemplate : TemplateId -> σ -> Reply σ (Option MailTemplate)
  /-- Record an event for some users, unless its review finds something wrong with it. -/
  record : Event -> List UserId -> σ -> Reply σ Review
  /-- Keep a continuation until an instant. -/
  schedule : Instant -> Continuation -> σ -> Reply σ Unit
  /-- Send a mail of a project. -/
  send : Project -> MailHeader -> MailTemplate -> σ -> Reply σ Unit

/-- The services of a part of a larger state. -/
def Services.lift {σ τ : Type} (services : Services σ) (view : τ -> σ) (update : σ -> τ -> τ) :
    Services τ :=
  let through {α : Type} (request : σ -> Reply σ α) (whole : τ) : Reply τ α :=
    let (answer, part) := request (view whole)
    (answer, update part whole)
  { now := fun whole => services.now (view whole)
    ticketLifetime := services.ticketLifetime
    mapping := fun whole => services.mapping (view whole)
    freshId := fun whole =>
      let (id, part) := services.freshId (view whole)
      (id, update part whole)
    findProject := fun id => through (services.findProject id)
    findAction := fun id => through (services.findAction id)
    hasTags := fun id included excluded => through (services.hasTags id included excluded)
    storeContact := fun contact whole =>
      (services.storeContact contact (view whole)).map (fun (answer, part) =>
        (answer, update part whole))
    removeContact := fun project id => through (services.removeContact project id)
    setTags := fun id included excluded => through (services.setTags id included excluded)
    findTemplate := fun id => through (services.findTemplate id)
    record := fun event users => through (services.record event users)
    schedule := fun instant continuation => through (services.schedule instant continuation)
    send := fun project header template => through (services.send project header template) }

end Outreach
