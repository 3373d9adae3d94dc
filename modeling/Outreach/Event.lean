import Outreach.Contact

/-!
# Events

What happened in a campaign is recorded as events. After it has been stored an event changes in
two places only: its category, and whether it is deleted.
-/

namespace Outreach

/-- Something that happened in a campaign. -/
structure Event where
  /-- The id, once the event has been stored. -/
  id : Option EventId
  ownerId : Option UserId
  projectId : Option ProjectId
  actionId : Option ActionId
  contactId : Option ContactId
  contactMail : Option String
  contactState : ContactState
  clientId : Option String
  /-- What events of one visit have in common. -/
  correlationUri : Option String
  referrerUrl : Option String
  startDate : Option Instant
  endDate : Option Instant
  name : Option String
  categoryId : Option CategoryId
  /-- The event that came before this one in the same visit. -/
  parentId : Option EventId
  deleted : Bool
deriving DecidableEq

namespace Event

/-- The event of which nothing is known. -/
def blank : Event :=
  { id := none, ownerId := none, projectId := none, actionId := none, contactId := none
    contactMail := none, contactState := .unchanged, clientId := none, correlationUri := none
    referrerUrl := none, startDate := none, endDate := none, name := none, categoryId := none
    parentId := none, deleted := false }

instance : Inhabited Event := ⟨blank⟩

/-- The document of an event. -/
def toJson (event : Event) : Json :=
  .object
    [("id", .ofOption .ofInt64 event.id),
      ("ownerId", .ofOption .string event.ownerId),
      ("projectId", .ofOption .ofInt64 event.projectId),
      ("actionId", .ofOption .ofInt64 event.actionId),
      ("contactId", .ofOption .ofInt64 event.contactId),
      ("contactMail", .ofOption .string event.contactMail),
      ("contactState", .string event.contactState.name),
      ("clientId", .ofOption .string event.clientId),
      ("correlationUri", .ofOption .string event.correlationUri),
      ("referrerUrl", .ofOption .string event.referrerUrl),
      ("startDate", .ofOption (fun instant => .string instant.text) event.startDate),
      ("endDate", .ofOption (fun instant => .string instant.text) event.endDate),
      ("name", .ofOption .string event.name),
      ("categoryId", .ofOption .ofInt64 event.categoryId),
      ("parentId", .ofOption .ofInt64 event.parentId),
      ("deleted", .bool event.deleted)]

/-- The fields of an event's document. -/
def layout : Layout :=
  ⟨"Event", ["id", "ownerId", "projectId", "actionId", "contactId", "contactMail",
    "contactState", "clientId", "correlationUri", "referrerUrl", "startDate", "endDate", "name",
    "categoryId", "parentId", "deleted"]⟩

/-- The event that a document writes. -/
def decode : Decoder Event := fun json => do
  let record <- Record.open? layout json
  let id := record.slot "id" (Decode.optional Decode.int64)
  let ownerId := record.slot "ownerId" (Decode.optional Decode.string)
  let projectId := record.slot "projectId" (Decode.optional Decode.int64)
  let actionId := record.slot "actionId" (Decode.optional Decode.int64)
  let contactId := record.slot "contactId" (Decode.optional Decode.int64)
  let contactMail := record.slot "contactMail" (Decode.optional Decode.string)
  let contactState := record.slot "contactState" ContactState.decode
  let clientId := record.slot "clientId" (Decode.optional Decode.string)
  let correlationUri := record.slot "correlationUri" (Decode.optional Decode.string)
  let referrerUrl := record.slot "referrerUrl" (Decode.optional Decode.string)
  let startDate := record.slot "startDate" (Decode.optional Decode.instant)
  let endDate := record.slot "endDate" (Decode.optional Decode.instant)
  let name := record.slot "name" (Decode.optional Decode.string)
  let categoryId := record.slot "categoryId" (Decode.optional Decode.int64)
  let parentId := record.slot "parentId" (Decode.optional Decode.int64)
  let deleted := record.slot "deleted" Decode.bool
  record.visit
    [id.problem, ownerId.problem, projectId.problem, actionId.problem, contactId.problem,
      contactMail.problem, contactState.problem, clientId.problem, correlationUri.problem,
      referrerUrl.problem, startDate.problem, endDate.problem, name.problem,
      categoryId.problem, parentId.problem, deleted.problem]
  let event : Event :=
    { id := <- id.orNone
      ownerId := <- ownerId.orNone
      projectId := <- projectId.orNone
      actionId := <- actionId.orNone
      contactId := <- contactId.orNone
      contactMail := <- contactMail.orNone
      contactState := <- contactState.required
      clientId := <- clientId.orNone
      correlationUri := <- correlationUri.orNone
      referrerUrl := <- referrerUrl.orNone
      startDate := <- startDate.orNone
      endDate := <- endDate.orNone
      name := <- name.orNone
      categoryId := <- categoryId.orNone
      parentId := <- parentId.orNone
      deleted := <- deleted.withDefault false }
  record.close
  return event

end Event

end Outreach
