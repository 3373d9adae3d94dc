import Outreach.Configuration
import Outreach.Event
import Outreach.Project

/-!
# The context of a run

All steps of a run share one context: who the run is for, what has become of them, and what
steps leave for each other. A snapshot is the part of it that a deferred continuation needs.
-/

namespace Outreach

/-- What a run leaves in its context by name. -/
abbrev Properties := Keyed String Json

/-- The action that is being carried out, without what is below it. -/
structure CurrentAction where
  id : ActionId
  kind : ActionKind
  name : String
  options : Json
  childIds : List ActionId
deriving Inhabited

namespace CurrentAction

/-- The view of an action. -/
def of (action : Action) : CurrentAction :=
  { id := action.id, kind := action.kind, name := action.name, options := action.options
    childIds := action.children.map Action.id }

/-- What stands for the first action of a run until it is visited. -/
def anchor (id : ActionId) : CurrentAction :=
  { id, kind := .sequence, name := "", options := .null, childIds := [] }

/-- What the options of the action say. -/
def configuration (action : CurrentAction) : Except ConfigurationError Configuration :=
  Configuration.parse action.kind action.options

end CurrentAction

/-- The state that the steps of a run share. -/
structure Context where
  project : Project
  /-- The action at the root of the run. -/
  rootAction : ActionId
  /-- The action that is being carried out. -/
  currentAction : CurrentAction
  ticket : Option Ticket
  /-- The id under which the visitor is known without a name. -/
  anonymousId : Option Uuid
  contact : Option Contact
  /-- What the run has done to the contact. -/
  contactState : ContactState
  properties : Properties
  /-- What the events of the run start from. -/
  event : Event
deriving Inhabited

/-- The part of a context that a continuation needs. -/
structure Snapshot where
  projectId : ProjectId
  /-- The action that the continuation starts from. -/
  actionId : ActionId
  ticket : Option Ticket
  anonymousId : Option Uuid
  contact : Option Contact
  contactState : ContactState
  properties : Properties
  event : Event
deriving Inhabited

namespace Context

/-- The context at the start of a run. -/
def start (project : Project) (rootAction : ActionId) : Context :=
  { project, rootAction, currentAction := .anchor rootAction, ticket := none
    anonymousId := none, contact := none, contactState := .unchanged, properties := ∅
    event := .blank }

/-- The id of the contact, if the run has one that has been stored. -/
def contactId (context : Context) : Option ContactId := context.contact.bind Contact.id

/-- Whether the run has a contact that has been stored. -/
def contactExists (context : Context) : Bool := context.contactId.isSome

/-- Whether the run has deleted its contact. -/
def contactDeleted (context : Context) : Bool := context.contactState = .deleted

/-- The id of the contact, if it has been stored and the run has not deleted it. -/
def liveContactId (context : Context) : Option ContactId :=
  if context.contactDeleted then none else context.contactId

/-- Whether the run has a stored contact that it has not deleted. -/
def hasLiveContact (context : Context) : Bool := context.contactExists && !context.contactDeleted

/-- Whether the visitor holds a ticket that proves to be the contact. -/
def isAuthenticatedAt (context : Context) (now : Instant) : Bool :=
  match context.ticket, context.contactId with
  | some ticket, some contactId => ticket.isValidFor contactId now
  | _, _ => false

/-- A property, if it is there and has the expected shape. -/
def property? {α : Type} (context : Context) (name : String) (decode : Decoder α) : Option α :=
  (context.properties.get? name).bind (fun value => (decode value).toOption)

/-- The context with a property. -/
def setProperty (context : Context) (name : String) (value : Json) : Context :=
  { context with properties := context.properties.insert name value }

/-- What a continuation from an action needs. -/
def snapshot (context : Context) (actionId : ActionId) : Snapshot :=
  { projectId := context.project.id, actionId, ticket := context.ticket
    anonymousId := context.anonymousId, contact := context.contact
    contactState := context.contactState, properties := context.properties
    event := context.event }

/-- The context of a continuation. Its run starts at the action of the snapshot. -/
def ofSnapshot (snapshot : Snapshot) (project : Project) : Context :=
  { project, rootAction := snapshot.actionId, currentAction := .anchor snapshot.actionId
    ticket := snapshot.ticket, anonymousId := snapshot.anonymousId, contact := snapshot.contact
    contactState := snapshot.contactState, properties := snapshot.properties
    event := snapshot.event }

end Context

namespace Snapshot

/-- The document of a snapshot. -/
def toJson (snapshot : Snapshot) : Json :=
  .object
    [("projectId", .ofInt64 snapshot.projectId),
      ("actionId", .ofInt64 snapshot.actionId),
      ("authTicket", .ofOption Ticket.toJson snapshot.ticket),
      ("anonymousId", .ofOption (fun id => .string id.text) snapshot.anonymousId),
      ("contact", .ofOption Contact.toJson snapshot.contact),
      ("contactState", .string snapshot.contactState.name),
      ("properties", .object snapshot.properties.entries),
      ("event", snapshot.event.toJson)]

/-- The fields of a snapshot's document. -/
def layout : Layout :=
  ⟨"ContinuationSnapshot", ["projectId", "actionId", "authTicket", "anonymousId", "contact",
    "contactState", "properties", "event"]⟩

/-- The snapshot that a document writes. -/
def decode : Decoder Snapshot := fun json => do
  let record <- Record.open? layout json
  let projectId := record.slot "projectId" Decode.int64
  let actionId := record.slot "actionId" Decode.int64
  let ticket := record.slot "authTicket" (Decode.optional Ticket.decode)
  let anonymousId := record.slot "anonymousId" (Decode.optional Decode.uuid)
  let contact := record.slot "contact" (Decode.optional Contact.decode)
  let contactState := record.slot "contactState" ContactState.decode
  let properties := record.slot "properties" (Decode.map Decode.any)
  let event := record.slot "event" Event.decode
  record.visit
    [projectId.problem, actionId.problem, ticket.problem, anonymousId.problem, contact.problem,
      contactState.problem, properties.problem, event.problem]
  let snapshot : Snapshot :=
    { projectId := <- projectId.required
      actionId := <- actionId.required
      ticket := <- ticket.orNone
      anonymousId := <- anonymousId.orNone
      contact := <- contact.orNone
      contactState := <- contactState.required
      properties := <- properties.withDefault ∅
      event := <- event.withDefault .blank }
  record.close
  return snapshot

end Snapshot

/-- What is stored of a deferred subtree. -/
structure Continuation where
  snapshot : Snapshot
  /-- The children of the deferring action at the time, for information only. -/
  childIds : List ActionId
deriving Inhabited

namespace Continuation

/-- The kind of the jobs that carry continuations. -/
def jobKind : String := "continuation"

/-- The document of a continuation. -/
def toJson (continuation : Continuation) : Json :=
  .object
    [("snapshot", continuation.snapshot.toJson),
      ("childIds", .ofList .ofInt64 continuation.childIds)]

/-- The fields of a continuation's document. -/
def layout : Layout := ⟨"ContinuationRequest", ["snapshot", "childIds"]⟩

/-- The continuation that a document writes. -/
def decode : Decoder Continuation := fun json => do
  let record <- Record.open? layout json
  let snapshot := record.slot "snapshot" Snapshot.decode
  let childIds := record.slot "childIds" (Decode.list Decode.int64)
  record.visit [snapshot.problem, childIds.problem]
  let continuation : Continuation :=
    { snapshot := <- snapshot.required
      childIds := <- childIds.required }
  record.close
  return continuation

end Continuation

end Outreach
