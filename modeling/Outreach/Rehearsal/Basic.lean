import Outreach.Catalog
import Outreach.Events.Log
import Outreach.Queue.Memory
import Outreach.Queue.Worker
import Outreach.Run.Activity
import Outreach.Run.Services

/-!
# Rehearsals

Everything around a run, kept in memory: a clock that moves when it is told to, a catalog, a place
for events, one for jobs and one for mails. Any request can be made to fail.
-/

namespace Outreach

/-- The requests that can be made to fail. -/
inductive Request where
  | findProject
  | findAction
  | hasTags
  | storeContact
  | removeContact
  | setTags
  | findTemplate
  | send
  | schedule
  | record
  | insertEvent
  | removeEvent
  | setCategory
  | rulesFor
deriving DecidableEq

/-- Which requests fail, and how. The fault that was set last counts. -/
abbrev Faults := List (Request × ServiceError)

namespace Faults

/-- The faults with another one for a request, or without one. -/
def set (faults : Faults) (request : Request) (cause : Option ServiceError) : Faults :=
  let others := faults.filter (fun fault => fault.1 ≠ request)
  match cause with
  | some cause => (request, cause) :: others
  | none => others

/-- Answer a request unless it is to fail. -/
def answer {σ α : Type} (faults : Faults) (request : Request) (state : σ)
    (reply : Unit -> Reply σ α) : Reply σ α :=
  match faults.lookup request with
  | some cause => (.error cause, state)
  | none => reply ()

end Faults

/-- Events that were taken as they came, each with the users who learn of it. -/
structure EventJournal where
  entries : List (Event × List UserId)
  /-- What is said of every further event, if no more are taken. -/
  complaint : Option String
deriving Inhabited

/-- The journal without events. -/
def EventJournal.empty : EventJournal := ⟨[], none⟩

/-- Take an event. Events are numbered from 1. -/
def EventJournal.record (journal : EventJournal) (event : Event) (users : List UserId) :
    Review × EventJournal :=
  match journal.complaint with
  | some complaint => (⟨[complaint]⟩, journal)
  | none =>
    let id := Int64.ofNat (journal.entries.length + 1)
    (.clean, { journal with entries := journal.entries ++ [({ event with id := some id }, users)] })

/-- Events and rules together. -/
structure RuledEvents where
  events : EventStore
  rules : RuleStore
  faults : Faults
deriving Inhabited

namespace RuledEvents

/-- What an event is answered as when its storage gives it no id. -/
def noId : ServiceError := .backend "no id"

/-- Store an event. The fault `noId` answers the event without an id and does not store it. -/
def insert (event : Event) (desk : RuledEvents) : Reply RuledEvents Event :=
  if desk.faults.lookup .insertEvent = some noId then (.ok { event with id := none }, desk)
  else
    desk.faults.answer .insertEvent desk (fun _ =>
      let (stored, events) := desk.events.insert event
      (.ok stored, { desk with events }))

/-- Change the stored events. -/
def update (request : Request) (desk : RuledEvents)
    (change : EventStore -> Reply EventStore Unit) : Reply RuledEvents Unit :=
  desk.faults.answer request desk (fun _ =>
    let (answer, events) := change desk.events
    (answer, { desk with events }))

/-- The storage that events are recorded in. -/
def storage : EventStorage RuledEvents :=
  { insert := insert
    rulesFor := fun owner desk =>
      desk.faults.answer .rulesFor desk (fun _ => (.ok (desk.rules.rulesFor owner), desk))
    remove := fun id desk => desk.update .removeEvent (fun events => events.remove id)
    setCategory := fun id category desk =>
      desk.update .setCategory (fun events => events.setCategory id category) }

end RuledEvents

/-- Where events go. -/
inductive EventDesk where
  /-- They are noted as they come. -/
  | journal (journal : EventJournal)
  /-- They are stored, and the rules of their owners are applied to them. -/
  | ruled (ruled : RuledEvents)
deriving Inhabited

/-- Where continuations go. -/
inductive JobDesk where
  /-- They are noted; the next one may be refused. -/
  | notes (jobs : List (Instant × Continuation)) (refuseNext : Bool)
  /-- They are queued, to be delivered a number of times. -/
  | queue (queue : Queue) (maxAttempts : UInt32)
deriving Inhabited

/-- A mail that was sent. -/
structure SentMail where
  projectId : ProjectId
  header : MailHeader
  templateId : TemplateId
deriving DecidableEq

/-- Where mails go. -/
inductive MailDesk where
  /-- They are kept. -/
  | kept (mails : List SentMail)
  /-- They are thrown away. -/
  | discarded
deriving Inhabited

/-- An action that was carried out, and what came of it. -/
structure Visit where
  actionId : ActionId
  outcome : Except StepFault Outcome

/-- The surroundings of rehearsed runs. -/
structure Rehearsal where
  /-- The present instant. -/
  now : Instant
  /-- The ids for visitors without a name, in the order in which they are given out. -/
  idAt : Nat -> Uuid
  /-- The number of ids given out so far. -/
  idCount : Nat
  /-- The ids for queued jobs, in the order in which they are given out. -/
  jobIdAt : Nat -> Uuid
  /-- The number of jobs queued so far. -/
  jobCount : Nat
  /-- How internationalized domains are mapped. -/
  mapping : Host.Mapping
  catalog : Catalog
  events : EventDesk
  jobs : JobDesk
  mails : MailDesk
  faults : Faults
  /-- The actions carried out so far. -/
  visits : List Visit
  /-- The actions that scripted activities were called for, with their kinds. -/
  calls : List (ActionKind × ActionId)
deriving Inhabited

namespace Rehearsal

/-- The ids 1, 2, and so on. -/
def countedIds (count : Nat) : Uuid := .ofNat (count + 1)

/-- A rehearsal that has not begun: nothing recorded, no faults. -/
def start (now : Instant) (catalog : Catalog) : Rehearsal :=
  { now, idAt := countedIds, idCount := 0, jobIdAt := countedIds, jobCount := 0
    mapping := Host.asciiMapping, catalog, events := .journal .empty, jobs := .notes [] false
    mails := .kept [], faults := [], visits := [], calls := [] }

/-- Ask the catalog. -/
def askCatalog {α : Type} (request : Request) (ask : Catalog -> Reply Catalog α)
    (rehearsal : Rehearsal) : Reply Rehearsal α :=
  rehearsal.faults.answer request rehearsal (fun _ =>
    let (answer, catalog) := ask rehearsal.catalog
    (answer, { rehearsal with catalog }))

/-- Store a contact in the catalog. -/
def storeContact (contact : Contact) (rehearsal : Rehearsal) : Option (Reply Rehearsal Contact) :=
  match rehearsal.faults.lookup .storeContact with
  | some cause => some (.error cause, rehearsal)
  | none =>
    (rehearsal.catalog.upsertContact contact).map (fun (answer, catalog) =>
      (answer, { rehearsal with catalog }))

/-- Record an event. -/
def record (event : Event) (users : List UserId) (rehearsal : Rehearsal) :
    Reply Rehearsal Review :=
  rehearsal.faults.answer .record rehearsal (fun _ =>
    match rehearsal.events with
    | .journal journal =>
      let (review, journal) := journal.record event users
      (.ok review, { rehearsal with events := .journal journal })
    | .ruled ruled =>
      let (answer, ruled) :=
        EventLog.create RuledEvents.storage event { ruled with faults := rehearsal.faults }
      (answer, { rehearsal with events := .ruled ruled }))

/-- What is said of a continuation that is refused. -/
def unavailable : ServiceError := .backend "queue unavailable"

/-- Keep a continuation until an instant. -/
def schedule (runAt : Instant) (continuation : Continuation) (rehearsal : Rehearsal) :
    Reply Rehearsal Unit :=
  rehearsal.faults.answer .schedule rehearsal (fun _ =>
    match rehearsal.jobs with
    | .notes jobs true => (.error unavailable, { rehearsal with jobs := .notes jobs false })
    | .notes jobs false =>
      (.ok (), { rehearsal with jobs := .notes (jobs ++ [(runAt, continuation)]) false })
    | .queue queue maxAttempts =>
      let id := rehearsal.jobIdAt rehearsal.jobCount
      let job := Job.ofContinuation id continuation runAt maxAttempts
      (.ok (),
        { rehearsal with
          jobCount := rehearsal.jobCount + 1, jobs := .queue (queue.push job) maxAttempts }))

/-- Send a mail. -/
def send (project : Project) (header : MailHeader) (template : MailTemplate)
    (rehearsal : Rehearsal) : Reply Rehearsal Unit :=
  rehearsal.faults.answer .send rehearsal (fun _ =>
    match rehearsal.mails with
    | .kept mails =>
      (.ok (), { rehearsal with mails := .kept (mails ++ [⟨project.id, header, template.id⟩]) })
    | .discarded => (.ok (), rehearsal))

/-- The next id. -/
def freshId (rehearsal : Rehearsal) : Uuid × Rehearsal :=
  (rehearsal.idAt rehearsal.idCount, { rehearsal with idCount := rehearsal.idCount + 1 })

/-- The services of a rehearsal. -/
def services (ticketLifetime : Span) : Services Rehearsal :=
  { now := Rehearsal.now
    ticketLifetime
    mapping := Rehearsal.mapping
    freshId := freshId
    findProject := fun id =>
      askCatalog .findProject (fun catalog => (.ok (catalog.project? id), catalog))
    findAction := fun id =>
      askCatalog .findAction (fun catalog => (.ok (catalog.action? id), catalog))
    hasTags := fun id included excluded =>
      askCatalog .hasTags (fun catalog => catalog.hasTags id included excluded)
    storeContact := storeContact
    removeContact := fun project id =>
      askCatalog .removeContact (fun catalog => catalog.removeContact project id)
    setTags := fun id included excluded =>
      askCatalog .setTags (fun catalog => catalog.setTags id included excluded)
    findTemplate := fun id =>
      askCatalog .findTemplate (fun catalog => (.ok (catalog.template? id), catalog))
    record := record
    schedule := schedule
    send := send }

/-- Use the queue of a rehearsal, if it has one. -/
def askQueue {α : Type} (idle : α) (ask : Queue -> Except QueueError α × Queue)
    (shift : Shift Rehearsal) : Except QueueError α × Shift Rehearsal :=
  match shift.world.jobs with
  | .queue queue maxAttempts =>
    let (answer, queue) := ask queue
    (answer, { shift with world := { shift.world with jobs := .queue queue maxAttempts } })
  | .notes _ _ => (.ok idle, shift)

/-- The queue of a rehearsal as the source of a worker. -/
def jobSource : JobSource Rehearsal :=
  { fetchDue := fun now limit =>
      askQueue [] (fun queue => queue.fetchDue now limit)
    complete := fun id => askQueue () (fun queue => queue.complete id)
    fail := fun id _ retryAt => askQueue (.dropped 0) (fun queue => queue.fail id retryAt) }

end Rehearsal

end Outreach
