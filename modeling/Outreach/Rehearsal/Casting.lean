import Outreach.Queue.Resume
import Outreach.Rehearsal.Script
import Outreach.Steps.Registry

/-!
# Castings

Who carries out the actions of which kind in a rehearsal: the step of that kind, the step of
another one, a script, or nobody.
-/

namespace Outreach

/-- Who carries out the actions of a kind. -/
inductive Role where
  | nobody
  /-- The step of a kind. -/
  | step (kind : ActionKind)
  /-- A script, and whether its calls go into the journal that such scripts share. -/
  | script (script : Script) (shared : Bool)

/-- A role, and the actions before which the run is cancelled. -/
structure Part where
  role : Role
  cancelBefore : List ActionId

/-- The part that a document gives to the actions of a kind. -/
def Part.decode (kind : ActionKind) : Decoder Part
  | .string _ => .ok ⟨.nobody, []⟩
  | json => do
    let part (name : String) : Json := (json.member? name).getD .null
    let cancelBefore := (<- Decode.optional (Decode.list Decode.int64)
      (part "cancelBefore")).getD []
    match part "mock" with
    | .null =>
      let other <- Decode.optional ActionKind.decode (part "builtin")
      return ⟨.step (other.getD kind), cancelBefore⟩
    | script =>
      let shared <- Decode.optional Decode.bool ((script.member? "shared").getD .null)
      return ⟨.script (<- Script.decode script) (shared.getD false), cancelBefore⟩

/-- The parts of all kinds. -/
abbrev Casting := List (ActionKind × Part)

namespace Casting

/-- The casting that a document gives; a kind that is not named has its own step. -/
def decode : Decoder Casting := fun json =>
  ActionKind.all.mapM (fun kind => do
    return (kind, <- Part.decode kind ((json.member? kind.name).getD .null)))

/-- The activity of a part. -/
def activity? (services : Services Rehearsal) (part : Part) : Option (Activity Rehearsal) :=
  let prepared (step : Step Rehearsal) : Activity Rehearsal :=
    Rehearsal.noted (Rehearsal.cancelledBefore part.cancelBefore step.guarded)
  match part.role with
  | .nobody => none
  | .step kind => some (prepared (Steps.forKind services kind))
  | .script script _ => some (prepared script.step)

/-- The registry of a casting. -/
def registry (casting : Casting) (services : Services Rehearsal) : Registry Rehearsal :=
  ⟨fun kind => (casting.lookup kind).bind (activity? services)⟩

/-- Whether the script of a kind has its calls in the shared journal; `none` if it has no
script. -/
def sharing? (casting : Casting) (kind : ActionKind) : Option Bool :=
  match casting.lookup kind with
  | some ⟨.script _ shared, _⟩ => some shared
  | _ => none

/-- The actions in the shared journal. -/
def sharedCalls (casting : Casting) (rehearsal : Rehearsal) : List ActionId :=
  (rehearsal.calls.filter (fun call => casting.sharing? call.1 = some true)).map Prod.snd

/-- How many calls are in the journal of every kind with a script. -/
def callCounts (casting : Casting) (rehearsal : Rehearsal) : List (ActionKind × Nat) :=
  casting.filterMap (fun entry =>
    (casting.sharing? entry.1).map (fun shared =>
      (entry.1,
        if shared then (casting.sharedCalls rehearsal).length
        else (rehearsal.calls.filter (fun call => call.1 = entry.1)).length)))

end Casting

/-- A rehearsal, the context of its runs, and whether they have been cancelled. -/
structure Session where
  rehearsal : Rehearsal
  context : Context
  cancelled : Bool

/-- The executor and the services of a session. -/
structure Troupe where
  executor : Executor Rehearsal
  services : Services Rehearsal

namespace Session

/-- The surroundings of what comes next, with no visits noted. What is cancelled `alone` does not
cancel the session. -/
def shift (session : Session) (alone : Bool) : Shift Rehearsal :=
  ⟨{ session.rehearsal with visits := [] }, session.cancelled || alone⟩

/-- The session after something that was perhaps cancelled alone. -/
def continued (session : Session) (alone : Bool) (shift : Shift Rehearsal) : Session :=
  { session with
    rehearsal := shift.world
    cancelled := if alone then session.cancelled else shift.cancelled }

/-- Carry out a tree. -/
def run (troupe : Troupe) (alone : Bool) (root : Action) (session : Session) :
    Except RunFault Outcome × Session :=
  let shift := session.shift alone
  let (outcome, run) := troupe.executor.execute root ⟨session.context, shift.world, shift.cancelled⟩
  (outcome, { session.continued alone ⟨run.world, run.cancelled⟩ with context := run.context })

/-- Resume what an action deferred. -/
def resume (troupe : Troupe) (alone : Bool) (snapshot : Snapshot) (actionId : ActionId)
    (session : Session) : Except RunFault Unit × Session :=
  let (answer, shift) :=
    troupe.executor.resume troupe.services snapshot actionId (session.shift alone)
  (answer, session.continued alone shift)

/-- The handler of continuations. -/
def handler (troupe : Troupe) : Handler Rehearsal :=
  troupe.executor.continuationHandler troupe.services

/-- Handle a payload as that of a continuation. -/
def handle (troupe : Troupe) (alone : Bool) (payload : Json) (session : Session) :
    Except QueueError Unit × Session :=
  let job := Job.new (.ofNat 1) Continuation.jobKind payload session.rehearsal.now 2
  let (answer, shift) := handler troupe job (session.shift alone)
  (answer, session.continued alone shift)

/-- Poll the queue for continuations. -/
def poll (troupe : Troupe) (alone : Bool) (batchSize : Nat) (session : Session) :
    Except QueueError PollStats × Session :=
  let worker : Worker Rehearsal :=
    { source := Rehearsal.jobSource
      handlers := Keyed.empty.insert Continuation.jobKind (handler troupe)
      now := Rehearsal.now
      batchSize
      retryBase := 30000000000 }
  let (answer, shift) := worker.runOnce (session.shift alone)
  (answer, session.continued alone shift)

/-- The continuations that were noted, with their instants. -/
def notes (session : Session) : List (Instant × Continuation) :=
  match session.rehearsal.jobs with
  | .notes jobs _ => jobs
  | .queue _ _ => []

/-- The session at a later instant; `none` if it has no date. -/
def advance? (session : Session) (seconds : Int) : Option Session :=
  ((Span.ofSeconds? seconds).bind session.rehearsal.now.add?).map (fun now =>
    { session with rehearsal := { session.rehearsal with now } })

/-- Refuse every further event, if events are noted. -/
def rejectEvents (session : Session) (complaint : String) : Session :=
  match session.rehearsal.events with
  | .ruled _ => session
  | .journal journal =>
    let events : EventDesk := .journal { journal with complaint := some complaint }
    { session with rehearsal := { session.rehearsal with events } }

/-- Refuse the next continuation, if continuations are noted. -/
def refuseNextJob (session : Session) : Session :=
  match session.rehearsal.jobs with
  | .queue _ _ => session
  | .notes jobs _ =>
    { session with rehearsal := { session.rehearsal with jobs := .notes jobs true } }

end Session

end Outreach
