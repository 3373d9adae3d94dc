import Outreach.Queue.Delay
import Outreach.Queue.Job

/-!
# Workers

A worker polls a source for due jobs, hands every job to the handler of its kind, and tells the
source what came of it. A handler may cancel the worker; jobs that were fetched but not handled
then go back to the source at once.
-/

namespace Outreach

/-- The surroundings of a worker, and whether it has been cancelled. -/
structure Shift (σ : Type) where
  world : σ
  cancelled : Bool

/-- Where a worker has its jobs from. -/
structure JobSource (σ : Type) where
  /-- Begin the deliveries of jobs that are due at an instant, at most as many as given. -/
  fetchDue : Instant -> Nat -> Shift σ -> Except QueueError (List Job) × Shift σ
  /-- End a delivery whose job is done. -/
  complete : Uuid -> Shift σ -> Except QueueError Unit × Shift σ
  /-- End a delivery whose job is not done, with what went wrong and the next instant. -/
  fail : Uuid -> String -> Instant -> Shift σ -> Except QueueError FailOutcome × Shift σ

/-- What does jobs of one kind. -/
abbrev Handler (σ : Type) := Job -> Shift σ -> Except QueueError Unit × Shift σ

/-- The handlers of a worker by the kinds of jobs. -/
abbrev Handlers (σ : Type) := Keyed String (Handler σ)

namespace Handlers

variable {σ : Type}

/-- Hand a job to the handler of its kind. -/
def dispatch (handlers : Handlers σ) : Handler σ := fun job shift =>
  match handlers.get? job.kind with
  | some handler => handler job shift
  | none => (.error (.unknownKind job.kind), shift)

end Handlers

/-- What came of one poll. -/
structure PollStats where
  completed : Nat
  retried : Nat
  dropped : Nat
  /-- Jobs of which the source could not be told what came of them. -/
  unrecorded : Nat
deriving DecidableEq, Inhabited

namespace PollStats

/-- Nothing came of a poll. -/
def none : PollStats := ⟨0, 0, 0, 0⟩

/-- The number of jobs that were handled. -/
def processed (stats : PollStats) : Nat :=
  stats.completed + stats.retried + stats.dropped + stats.unrecorded

/-- Count one more job by what the source recorded of it. -/
def count (stats : PollStats) : Except QueueError (Option FailOutcome) -> PollStats
  | .ok .none => { stats with completed := stats.completed + 1 }
  | .ok (some (.retrying _ _)) => { stats with retried := stats.retried + 1 }
  | .ok (some (.dropped _)) => { stats with dropped := stats.dropped + 1 }
  | .error _ => { stats with unrecorded := stats.unrecorded + 1 }

/-- The document of what came of a poll. -/
def toJson (stats : PollStats) : Json :=
  .object
    [("completed", .ofNat stats.completed),
      ("retried", .ofNat stats.retried),
      ("dropped", .ofNat stats.dropped),
      ("unrecorded", .ofNat stats.unrecorded),
      ("processed", .ofNat stats.processed)]

end PollStats

/-- A worker. -/
structure Worker (σ : Type) where
  source : JobSource σ
  handlers : Handlers σ
  /-- The present instant. -/
  now : σ -> Instant
  /-- How many jobs are fetched at once. -/
  batchSize : Nat
  /-- The delay after the first failed delivery, in nanoseconds. -/
  retryBase : Nat

namespace Worker

variable {σ : Type}

/-- The instant at which a failed job is delivered again; `none` if it cannot be told. -/
def retryAt? (worker : Worker σ) (job : Job) (now : Instant) : Option Instant :=
  (Delay.afterAttempts? worker.retryBase job.attempts).bind
    (fun delay => now.add? (Delay.toSpan delay))

/-- Handle one job and tell the source what came of it. Answered is what the source recorded:
nothing for a job that is done. -/
def process (worker : Worker σ) (job : Job) (shift : Shift σ) :
    Except QueueError (Option FailOutcome) × Shift σ :=
  match worker.handlers.dispatch job shift with
  | (.error .overflow, shift) => (.error .overflow, shift)
  | (.ok (), shift) =>
    let (answer, shift) := worker.source.complete job.id shift
    (answer.map (fun _ => none), shift)
  | (.error cause, shift) =>
    match worker.retryAt? job (worker.now shift.world) with
    | none => (.error .overflow, shift)
    | some retryAt =>
      let (answer, shift) := worker.source.fail job.id cause.message retryAt shift
      (answer.map some, shift)

/-- Give a job back that was not handled because the worker has been cancelled. -/
def giveBack (worker : Worker σ) (job : Job) (shift : Shift σ) : Shift σ :=
  (worker.source.fail job.id "worker shutting down" (worker.now shift.world) shift).2

/-- Handle the jobs of a batch in order. -/
def processAll (worker : Worker σ) (stats : PollStats) (shift : Shift σ) :
    List Job -> Except QueueError PollStats × Shift σ
  | [] => (.ok stats, shift)
  | job :: rest =>
    if shift.cancelled then worker.processAll stats (worker.giveBack job shift) rest
    else
      match worker.process job shift with
      | (.error .overflow, shift) => (.error .overflow, shift)
      | (recorded, shift) => worker.processAll (stats.count recorded) shift rest

/-- Fetch one batch of due jobs and handle it. -/
def runOnce (worker : Worker σ) (shift : Shift σ) : Except QueueError PollStats × Shift σ :=
  match worker.source.fetchDue (worker.now shift.world) worker.batchSize shift with
  | (.error cause, shift) => (.error cause, shift)
  | (.ok jobs, shift) => worker.processAll .none shift jobs

/-- Poll until the worker is cancelled, at most a number of times. A source that does not work
is polled again. -/
def run (worker : Worker σ) : Nat -> Shift σ -> Except QueueError Unit × Shift σ
  | 0, shift => (.ok (), shift)
  | polls + 1, shift =>
    if shift.cancelled then (.ok (), shift)
    else
      match worker.runOnce shift with
      | (.error .overflow, shift) => (.error .overflow, shift)
      | (_, shift) => worker.run polls shift

end Worker

end Outreach
