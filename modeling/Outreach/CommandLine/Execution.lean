import Outreach.Catalog.Fixture
import Outreach.CommandLine.Arguments
import Outreach.Database.Address
import Outreach.Json.Reader
import Outreach.Rehearsal.Basic
import Outreach.Steps.Registry
import Outreach.Tree.Execution
import Outreach.Tree.Validation

/-!
# Commands

What the commands do with the files they are given. A campaign is carried out on a fixture: with
the contacts and rules of a file, a queue of its own, and mails that are thrown away.
-/

namespace Outreach.CommandLine

/-- Why a command fails. -/
inductive Failure where
  /-- A file with a tree cannot be read. -/
  | unreadableTree (path : String)
  /-- A file does not hold a tree. -/
  | noTree
  /-- A tree is not well formed. -/
  | invalidTree (root : ActionId) (fault : TreeFault)
  /-- A file with a fixture cannot be read. -/
  | unreadableFixture (path : String)
  /-- A file does not hold a fixture. -/
  | noFixture (path : String)
  | actionMissing (id : ActionId)
  /-- The tree of a fixture that is to be carried out is not well formed. -/
  | unfit (fault : TreeFault)
  | projectMissing (id : ProjectId)
  | contactMissing (id : ContactId)
  /-- The tree was not carried out to its end. -/
  | aborted (fault : RunFault)
  /-- The address of the database is refused. -/
  | databaseRefused (refusal : Database.Refusal)
  /-- There is no database to connect to. -/
  | databaseUnavailable

/-- The wording of a failure. -/
def Failure.message : Failure -> String
  | .unreadableTree path => "cannot read file " ++ path
  | .noTree => "invalid tree JSON"
  | .invalidTree root _ => "tree " ++ Digits.wordText root ++ " is invalid"
  | .unreadableFixture path => "cannot read fixture " ++ path
  | .noFixture path => "invalid fixture " ++ path
  | .actionMissing id => "action " ++ Digits.wordText id ++ " not found in fixture"
  | .unfit fault => fault.message
  | .projectMissing id => "project " ++ Digits.wordText id ++ " not found in fixture"
  | .contactMissing id => "contact " ++ Digits.wordText id ++ " not found in fixture"
  | .aborted fault => fault.message
  | .databaseRefused _ | .databaseUnavailable => "failed to connect to database"

/-- What lies behind a failure. -/
def Failure.cause : Failure -> Option String
  | .invalidTree _ fault => some fault.message
  | .databaseRefused refusal => some refusal.message
  | _ => none

/-- What a command answers. -/
inductive Answer where
  | line (text : String)
  | report (json : Json)

/-- The text of an answer. -/
def Answer.text : Answer -> String
  | .line text => text
  | .report json => json.indented

/-- The surroundings of a command. -/
structure Surroundings where
  /-- The content of a file, if it can be read. -/
  content : String -> Option String
  /-- The present instant. -/
  now : Instant
  /-- The ids for visitors without a name. -/
  idAt : Nat -> Uuid
  /-- The ids for queued jobs. -/
  jobIdAt : Nat -> Uuid
  /-- How internationalized domains are mapped. -/
  mapping : Host.Mapping

/-- The value that the content of a file writes. A record that has a field twice is refused; where
a document is kept as it is, the last of the members with one name counts. -/
def read? {α : Type} (decode : Decoder α) (content : String) : Option α := do
  let json <- Json.ofText? Json.documentNesting content.toList
  let _ <- (decode json).toOption
  (decode json.canonical).toOption

/-- Check the tree in a file. -/
def validate (settings : Settings) (surroundings : Surroundings) (path : String) :
    Except Failure Answer :=
  match surroundings.content path with
  | none => .error (.unreadableTree path)
  | some content =>
    match read? Action.decode content with
    | none => .error .noTree
    | some root =>
      match root.validate settings.maxDepth with
      | .error fault => .error (.invalidTree root.id fault)
      | .ok count =>
        .ok (.line ("tree " ++ Digits.wordText root.id ++ " is valid (" ++
          Digits.natText count ++ " actions)"))

/-- The rehearsal on a fixture, if there are ids for all its contacts. Jobs are delivered twice. -/
def rehearsalOn? (fixture : RuledFixture) (surroundings : Surroundings) : Option Rehearsal :=
  fixture.fixture.toCatalog?.map (fun catalog =>
    { Rehearsal.start surroundings.now catalog with
      idAt := surroundings.idAt
      jobIdAt := surroundings.jobIdAt
      mapping := surroundings.mapping
      events := .ruled ⟨.empty, ⟨fixture.rules⟩, []⟩
      jobs := .queue (.empty Queue.usualLease) 2
      mails := .discarded })

/-- The report on a run. -/
def reportOn (outcome : Outcome) (run : Run Rehearsal) : Json :=
  let events := match run.world.events with
    | .ruled ruled => ruled.events.events
    | .journal journal => journal.entries.map Prod.fst
  let jobs := match run.world.jobs with
    | .queue queue _ => queue.pending.length
    | .notes jobs _ => jobs.length
  .object
    [("contactState", .string run.context.contactState.name),
      ("events", .ofList Event.toJson events),
      ("result", outcome.toJson),
      ("scheduledJobs", .ofNat jobs)]

/-- The contact that a run is for. -/
def contactOf (catalog : Catalog) : Option ContactId -> Except Failure (Option Contact)
  | none => .ok none
  | some id =>
    match catalog.contact? id with
    | some contact => .ok (some contact)
    | none => .error (.contactMissing id)

/-- Carry out an action of a rehearsal's catalog. -/
def perform (settings : Settings) (rehearsal : Rehearsal) (actionId : ActionId)
    (contact : Option ContactId) : Except Failure Answer := do
  let catalog := rehearsal.catalog
  let root <- ((catalog.action? actionId).map .ok).getD (.error (.actionMissing actionId))
  let _ <- (root.validate settings.maxDepth).mapError .unfit
  let project <- ((catalog.project? root.projectId).map .ok).getD
    (.error (.projectMissing root.projectId))
  let contact <- contactOf catalog contact
  let services := Rehearsal.services settings.ticketLifetime
  let executor : Executor Rehearsal := ⟨.standard services, settings.maxDepth⟩
  let context := { Context.start project root.id with contact }
  let (outcome, run) := executor.execute root ⟨context, rehearsal, false⟩
  (outcome.mapError .aborted).map (fun outcome => .report (reportOn outcome run))

/-- Carry out an action of the fixture in a file. -/
def rehearse (settings : Settings) (surroundings : Surroundings) (path : String)
    (actionId : ActionId) (contact : Option ContactId) : Except Failure Answer :=
  match surroundings.content path with
  | none => .error (.unreadableFixture path)
  | some content =>
    match read? RuledFixture.decode content with
    | none => .error (.noFixture path)
    | some fixture =>
      match rehearsalOn? fixture surroundings with
      | none => .error (.aborted .overflow)
      | some rehearsal => perform settings rehearsal actionId contact

/-- Connect to a database. -/
def connect (surroundings : Surroundings) (address : String) : Except Failure Answer :=
  match Database.check surroundings.mapping address with
  | .error refusal => .error (.databaseRefused refusal)
  | .ok () => .error .databaseUnavailable

/-- Carry out a command. -/
def execute (settings : Settings) (surroundings : Surroundings) :
    Command -> Except Failure Answer
  | .worker address => connect surroundings address
  | .migrate address => connect surroundings address
  | .validate path => validate settings surroundings path
  | .run path action contact => rehearse settings surroundings path action contact

end Outreach.CommandLine
