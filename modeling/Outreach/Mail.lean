import Outreach.Decode.Record
import Outreach.Ids

/-!
# Mail

The parts of an outgoing mail, and the invitation from which a mail may take its sender.
-/

namespace Outreach

/-- The authored text of a mail. -/
structure MailTemplate where
  id : TemplateId
  projectId : ProjectId
  subject : String
  body : String
deriving DecidableEq, Inhabited

namespace MailTemplate

/-- The document of a template. -/
def toJson (template : MailTemplate) : Json :=
  .object
    [("id", .ofInt64 template.id),
      ("projectId", .ofInt64 template.projectId),
      ("subject", .string template.subject),
      ("body", .string template.body)]

/-- The fields of a template's document. -/
def layout : Layout := ⟨"MailTemplate", ["id", "projectId", "subject", "body"]⟩

/-- The template that a document writes. -/
def decode : Decoder MailTemplate := fun json => do
  let record <- Record.open? layout json
  let id := record.slot "id" Decode.int64
  let projectId := record.slot "projectId" Decode.int64
  let subject := record.slot "subject" Decode.string
  let body := record.slot "body" Decode.string
  record.visit [id.problem, projectId.problem, subject.problem, body.problem]
  let template : MailTemplate :=
    { id := <- id.required
      projectId := <- projectId.required
      subject := <- subject.required
      body := <- body.required }
  record.close
  return template

end MailTemplate

/-- An address of a mail. -/
structure MailAddress where
  email : String
  name : Option String
deriving DecidableEq, Inhabited

namespace MailAddress

/-- The document of an address. -/
def toJson (address : MailAddress) : Json :=
  .object [("email", .string address.email), ("name", .ofOption .string address.name)]

/-- The fields of an address's document. -/
def layout : Layout := ⟨"MailAddress", ["email", "name"]⟩

/-- The address that a document writes. -/
def decode : Decoder MailAddress := fun json => do
  let record <- Record.open? layout json
  let email := record.slot "email" Decode.string
  let name := record.slot "name" (Decode.optional Decode.string)
  record.visit [email.problem, name.problem]
  let address : MailAddress :=
    { email := <- email.required
      name := <- name.orNone }
  record.close
  return address

end MailAddress

/-- What is filled into the text of a mail, by name. -/
abbrev Placeholders := Keyed String String

/-- The document of placeholders. -/
def Placeholders.toJson (placeholders : Placeholders) : Json :=
  .object (placeholders.mapValues Json.string).entries

/-- Who gets a mail, from whom, and what is filled in. -/
structure MailHeader where
  /-- The recipient. -/
  recipient : MailAddress
  /-- The sender, when it is not the project's own. -/
  sender : Option MailAddress
  /-- Where answers go. -/
  replyTo : Option MailAddress
  /-- What is filled into the text. -/
  placeholders : Placeholders
deriving DecidableEq, Inhabited

namespace MailHeader

/-- The document of a header. -/
def toJson (header : MailHeader) : Json :=
  .object
    [("to", header.recipient.toJson),
      ("from", .ofOption MailAddress.toJson header.sender),
      ("replyTo", .ofOption MailAddress.toJson header.replyTo),
      ("placeholders", header.placeholders.toJson)]

/-- The fields of a header's document. -/
def layout : Layout := ⟨"MailHeader", ["to", "from", "replyTo", "placeholders"]⟩

/-- The header that a document writes. -/
def decode : Decoder MailHeader := fun json => do
  let record <- Record.open? layout json
  let recipient := record.slot "to" MailAddress.decode
  let sender := record.slot "from" (Decode.optional MailAddress.decode)
  let replyTo := record.slot "replyTo" (Decode.optional MailAddress.decode)
  let placeholders := record.slot "placeholders" (Decode.map Decode.string)
  record.visit [recipient.problem, sender.problem, replyTo.problem, placeholders.problem]
  let header : MailHeader :=
    { recipient := <- recipient.required
      sender := <- sender.orNone
      replyTo := <- replyTo.orNone
      placeholders := <- placeholders.withDefault ∅ }
  record.close
  return header

end MailHeader

/-- Who invited a contact, and what the invitation adds to mails. -/
structure Invitation where
  senderEmail : Option String
  senderName : Option String
  placeholders : Placeholders
deriving DecidableEq, Inhabited

namespace Invitation

/-- The property of a run that holds its invitation. -/
def property : String := "Invitation"

/-- The document of an invitation. -/
def toJson (invitation : Invitation) : Json :=
  .object
    [("senderEmail", .ofOption .string invitation.senderEmail),
      ("senderName", .ofOption .string invitation.senderName),
      ("placeholders", invitation.placeholders.toJson)]

/-- The fields of an invitation's document. -/
def layout : Layout := ⟨"Invitation", ["senderEmail", "senderName", "placeholders"]⟩

/-- The invitation that a document writes. -/
def decode : Decoder Invitation := fun json => do
  let record <- Record.open? layout json
  let senderEmail := record.slot "senderEmail" (Decode.optional Decode.string)
  let senderName := record.slot "senderName" (Decode.optional Decode.string)
  let placeholders := record.slot "placeholders" (Decode.map Decode.string)
  record.visit [senderEmail.problem, senderName.problem, placeholders.problem]
  let invitation : Invitation :=
    { senderEmail := <- senderEmail.orNone
      senderName := <- senderName.orNone
      placeholders := <- placeholders.withDefault ∅ }
  record.close
  return invitation

end Invitation

/-- The header of a mail to an address. The sender and the answers' address are those of the
invitation, if it names one; what the invitation fills in goes before the names of the recipient
and the sender. -/
def MailHeader.compose (recipient : MailAddress) (invitation : Option Invitation) : MailHeader :=
  let own : Placeholders := Keyed.empty.insert "contact.email" recipient.email
  let own := match recipient.name with
    | some name => own.insert "contact.name" name
    | none => own
  match invitation with
  | none => { recipient, sender := none, replyTo := none, placeholders := own }
  | some invitation =>
    let sender := invitation.senderEmail.map (fun email => ⟨email, invitation.senderName⟩)
    let own := match invitation.senderName with
      | some name => own.insert "sender.name" name
      | none => own
    { recipient
      sender
      replyTo := sender
      placeholders := invitation.placeholders.entries.foldl
        (fun all entry => all.insert entry.1 entry.2) own }

end Outreach
