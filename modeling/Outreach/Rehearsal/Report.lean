import Outreach.Rehearsal.Casting
import Outreach.Steps.Condition

/-!
# Reports on rehearsals

What a rehearsal recorded, as documents.
-/

namespace Outreach

/-- The document of a journal: the events, and who learns of each. -/
def EventJournal.toJson (journal : EventJournal) : Json :=
  .object
    [("events", .ofList Event.toJson (journal.entries.map Prod.fst)),
      ("recipients", .ofList (Json.ofList .string) (journal.entries.map Prod.snd))]

/-- The document of the recorded events. -/
def EventDesk.toJson : EventDesk -> Json
  | .journal noted => noted.toJson
  | .ruled stored => .ofList Event.toJson stored.events.events

/-- The document of a mail that was sent. -/
def SentMail.toJson (mail : SentMail) : Json :=
  .object
    [("projectId", .ofInt64 mail.projectId), ("templateId", .ofInt64 mail.templateId),
      ("header", mail.header.toJson)]

/-- The document of the mails that were kept. -/
def MailDesk.toJson : MailDesk -> Json
  | .kept sent => .ofList SentMail.toJson sent
  | .discarded => .array []

/-- How full a queue is. -/
def Queue.members (queue : Queue) : List (String × Json) :=
  [("pending", .ofNat queue.pending.length), ("inFlight", .ofNat queue.inFlight.length),
    ("nextRunAt", .ofOption (fun instant => .string instant.text) queue.nextRunAt?)]

/-- How full the queue of a rehearsal is. -/
def JobDesk.toJson : JobDesk -> Json
  | .queue kept _ => .object kept.members
  | .notes _ _ => .object (Queue.empty 0).members

/-- The document of a verdict. -/
def Steps.Verdict.toJson (verdict : Verdict) : Json :=
  .object
    [("passed", .bool verdict.passed), ("evaluated", .ofNat verdict.evaluated),
      ("tagQueryIssued", .bool verdict.tagQueryIssued)]

/-- The document that shows a context as it is at an instant. -/
def Context.shownAt (context : Context) (now : Instant) : Json :=
  let action := context.currentAction
  .object
    [("rootAction", .ofInt64 context.rootAction),
      ("currentAction",
        .array [.ofInt64 action.id, .string action.kind.name, .string action.name,
          .ofList .ofInt64 action.childIds]),
      ("snapshot", (context.snapshot action.id).toJson),
      ("contactExists", .bool context.contactExists),
      ("contactDeleted", .bool context.contactDeleted),
      ("hasLiveContact", .bool context.hasLiveContact),
      ("isAuthenticated", .bool (context.isAuthenticatedAt now))]

/-- What a run left in its context. -/
def Context.members (context : Context) : List (String × Json) :=
  [("contact", .ofOption Contact.toJson context.contact),
    ("contactState", .string context.contactState.name),
    ("authTicket", .ofOption Ticket.toJson context.ticket),
    ("anonymousId", .ofOption (fun id => .string id.text) context.anonymousId),
    ("currentAction", .ofInt64 context.currentAction.id)]

end Outreach
