import Outreach.Decode.Record
import Outreach.Ids
import Outreach.Text.Blank
import Outreach.Text.LowerCase
import Outreach.Time.Printer

/-!
# Contacts

A contact is a visitor or a lead. It has an id once it has been stored. A run notes what it did
to its contact, and a visitor who proved to be a contact holds a ticket for some time.
-/

namespace Outreach

/-- What a run has done to its contact so far. -/
inductive ContactState where
  | unchanged
  | added
  | modified
  | deleted
deriving DecidableEq, Inhabited

namespace ContactState

/-- Every state, in the order in which they are listed. -/
def all : List ContactState := [.unchanged, .added, .modified, .deleted]

/-- The name of a state in documents. -/
def name : ContactState -> String
  | .unchanged => "Unchanged"
  | .added => "Added"
  | .modified => "Modified"
  | .deleted => "Deleted"

/-- The state that a document names. -/
def decode : Decoder ContactState := Decode.variant (all.map (fun state => (state.name, state)))

/-- An authored text as it is compared with the names of states. -/
def normalized (text : String) : String := Text.asciiLowerCase (Text.trimmed text)

/-- The state that an authored text names; letter case and white space around it do not
matter. -/
def ofText? (text : String) : Option ContactState :=
  all.find? (fun state => Text.asciiLowerCase state.name = normalized text)

/-- The wording of the refusal of a text that names no state. -/
def refusal (text : String) : String := "unknown contact state: " ++ normalized text

end ContactState

/-- A visitor or a lead. -/
structure Contact where
  /-- The id, once the contact has been stored. -/
  id : Option ContactId
  projectId : ProjectId
  email : String
  name : Option String
  tags : IdSet
deriving DecidableEq, Inhabited

namespace Contact

/-- A contact that has not been stored. -/
def new (projectId : ProjectId) (email : String) : Contact :=
  { id := none, projectId, email, name := none, tags := ∅ }

/-- The contact with further tags. -/
def withTags (contact : Contact) (tags : List TagId) : Contact :=
  { contact with tags := contact.tags.insertAll tags }

/-- The document of a contact. -/
def toJson (contact : Contact) : Json :=
  .object
    [("id", .ofOption .ofInt64 contact.id),
      ("projectId", .ofInt64 contact.projectId),
      ("email", .string contact.email),
      ("name", .ofOption .string contact.name),
      ("tags", .ofList .ofInt64 contact.tags.toList)]

/-- The fields of a contact's document. -/
def layout : Layout := ⟨"Contact", ["id", "projectId", "email", "name", "tags"]⟩

/-- The contact that a document writes. -/
def decode : Decoder Contact := fun json => do
  let record <- Record.open? layout json
  let id := record.slot "id" (Decode.optional Decode.int64)
  let projectId := record.slot "projectId" Decode.int64
  let email := record.slot "email" Decode.string
  let name := record.slot "name" (Decode.optional Decode.string)
  let tags := record.slot "tags" Decode.idSet
  record.visit [id.problem, projectId.problem, email.problem, name.problem, tags.problem]
  let contact : Contact :=
    { id := <- id.orNone
      projectId := <- projectId.required
      email := <- email.required
      name := <- name.orNone
      tags := <- tags.withDefault ∅ }
  record.close
  return contact

end Contact

/-- Proof that a visitor identified as a contact. -/
structure Ticket where
  contactId : ContactId
  /-- The id under which the visitor is known without a name. -/
  anonymousId : Uuid
  issuedAt : Instant
  expiresAt : Instant
deriving DecidableEq

namespace Ticket

/-- Whether the ticket proves at an instant that the visitor is a contact. -/
def isValidFor (ticket : Ticket) (contactId : ContactId) (now : Instant) : Bool :=
  ticket.contactId = contactId && now < ticket.expiresAt

/-- The document of a ticket. -/
def toJson (ticket : Ticket) : Json :=
  .object
    [("contactId", .ofInt64 ticket.contactId),
      ("anonymousId", .string ticket.anonymousId.text),
      ("issuedAt", .string ticket.issuedAt.text),
      ("expiresAt", .string ticket.expiresAt.text)]

/-- The fields of a ticket's document. -/
def layout : Layout := ⟨"AuthTicket", ["contactId", "anonymousId", "issuedAt", "expiresAt"]⟩

/-- The ticket that a document writes. -/
def decode : Decoder Ticket := fun json => do
  let record <- Record.open? layout json
  let contactId := record.slot "contactId" Decode.int64
  let anonymousId := record.slot "anonymousId" Decode.uuid
  let issuedAt := record.slot "issuedAt" Decode.instant
  let expiresAt := record.slot "expiresAt" Decode.instant
  record.visit [contactId.problem, anonymousId.problem, issuedAt.problem, expiresAt.problem]
  let ticket : Ticket :=
    { contactId := <- contactId.required
      anonymousId := <- anonymousId.required
      issuedAt := <- issuedAt.required
      expiresAt := <- expiresAt.required }
  record.close
  return ticket

end Ticket

end Outreach
