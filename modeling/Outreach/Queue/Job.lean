import Outreach.Run.Context

/-!
# Jobs

A job is work that is to be done at an instant or later. Every delivery of a job counts; a job
whose deliveries are used up is not delivered again.
-/

namespace Outreach

/-- A unit of deferred work. -/
structure Job where
  id : Uuid
  /-- What the job is about; handlers are found by it. -/
  kind : String
  payload : Json
  /-- The instant from which the job may be delivered. -/
  runAt : Instant
  /-- The deliveries so far, including one that is under way. -/
  attempts : UInt32
  /-- The deliveries a job may use. -/
  maxAttempts : UInt32
deriving Inhabited

namespace Job

/-- A job that has not been delivered. -/
def new (id : Uuid) (kind : String) (payload : Json) (runAt : Instant) (maxAttempts : UInt32) :
    Job :=
  { id, kind, payload, runAt, attempts := 0, maxAttempts }

/-- The job that carries a continuation. -/
def ofContinuation (id : Uuid) (continuation : Continuation) (runAt : Instant)
    (maxAttempts : UInt32) : Job :=
  new id Continuation.jobKind continuation.toJson runAt maxAttempts

/-- Whether there is no higher number of deliveries. -/
def full (job : Job) : Bool := job.attempts.toNat + 1 = UInt32.size

/-- The job with one more delivery. -/
def attempted (job : Job) : Job := { job with attempts := job.attempts + 1 }

/-- Whether the deliveries are used up. -/
def exhausted (job : Job) : Bool := job.maxAttempts <= job.attempts

/-- The document of a job. -/
def toJson (job : Job) : Json :=
  .object
    [("id", .string job.id.text),
      ("kind", .string job.kind),
      ("payload", job.payload),
      ("run_at", .string job.runAt.text),
      ("attempts", .ofNat job.attempts.toNat),
      ("max_attempts", .ofNat job.maxAttempts.toNat)]

/-- The fields of a job's document. -/
def layout : Layout := ⟨"Job", ["id", "kind", "payload", "run_at", "attempts", "max_attempts"]⟩

/-- The job that a document writes. -/
def decode : Decoder Job := fun json => do
  let record <- Record.open? layout json
  let id := record.slot "id" Decode.uuid
  let kind := record.slot "kind" Decode.string
  let payload := record.slot "payload" Decode.any
  let runAt := record.slot "run_at" Decode.instant
  let attempts := record.slot "attempts" Decode.uint32
  let maxAttempts := record.slot "max_attempts" Decode.uint32
  record.visit
    [id.problem, kind.problem, payload.problem, runAt.problem, attempts.problem,
      maxAttempts.problem]
  let job : Job :=
    { id := <- id.required
      kind := <- kind.required
      payload := <- payload.required
      runAt := <- runAt.required
      attempts := <- attempts.required
      maxAttempts := <- maxAttempts.required }
  record.close
  return job

end Job

/-- What became of a job whose handler failed. -/
inductive FailOutcome where
  /-- It is delivered again, from an instant on. -/
  | retrying (attempts : UInt32) (runAt : Instant)
  /-- Its deliveries were used up, and it is gone. -/
  | dropped (attempts : UInt32)
deriving DecidableEq

/-- Why work on jobs does not succeed. -/
inductive QueueError where
  /-- No handler is known for the kind of a job. -/
  | unknownKind (kind : String)
  /-- A handler could not do its job. -/
  | handler (kind detail : String)
  /-- The payload of a job is not what its handler expects. -/
  | payload (cause : DecodeError)
  /-- No delivery of a job is under way. -/
  | notInFlight (id : Uuid)
  /-- The source of the jobs does not work. -/
  | source (detail : String)
  /-- An instant, a span or a number of deliveries out of range. Nothing goes on after that. -/
  | overflow

/-- The wording of a cause. -/
def QueueError.message : QueueError -> String
  | .unknownKind kind => "no handler registered for job kind '" ++ kind ++ "'"
  | .handler kind detail => "job handler '" ++ kind ++ "' failed: " ++ detail
  | .payload cause => "invalid job payload: " ++ cause.message
  | .notInFlight id => "job " ++ id.text ++ " is not in flight"
  | .source detail => "job source: " ++ detail
  | .overflow => "date or duration out of range"

end Outreach
