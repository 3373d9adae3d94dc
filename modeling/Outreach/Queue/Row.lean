import Outreach.Queue.Job

/-!
# Stored jobs

The row of a table that keeps a job, with its counts as signed words and its status as a text.
-/

namespace Outreach

/-- What has become of a stored job. -/
inductive JobStatus where
  | pending
  | processing
  | completed
  /-- Its deliveries were used up. -/
  | dropped
deriving DecidableEq, Inhabited

namespace JobStatus

/-- Every status, in the order in which they are listed. -/
def all : List JobStatus := [.pending, .processing, .completed, .dropped]

/-- The name of a status in documents. -/
def name : JobStatus -> String
  | .pending => "Pending"
  | .processing => "Processing"
  | .completed => "Completed"
  | .dropped => "Dropped"

/-- The text of a status in a row. -/
def text : JobStatus -> String
  | .pending => "pending"
  | .processing => "processing"
  | .completed => "completed"
  | .dropped => "dropped"

/-- The status that a text of a row names. -/
def ofText? (text : String) : Option JobStatus := all.find? (fun status => status.text = text)

/-- The wording of the refusal of a text that names no status. -/
def refusal (text : String) : String := "unknown job status: " ++ text

end JobStatus

/-- The row that keeps a job. -/
structure JobRow where
  id : Uuid
  kind : String
  payload : Json
  runAt : Instant
  status : String
  attempts : Int32
  maxAttempts : Int32
  lastError : Option String
  createdAt : Instant
  updatedAt : Instant

/-- Why a row is not a job. -/
inductive RowError where
  /-- The status is none. -/
  | unknownStatus (text : String)
  /-- A count is below zero. -/
  | negativeCount (id : Uuid) (field : String)

/-- The wording of a cause. -/
def RowError.message : RowError -> String
  | .unknownStatus text => "invalid row: " ++ JobStatus.refusal text
  | .negativeCount id field => "invalid row: job " ++ id.text ++ ": negative " ++ field

namespace JobRow

/-- The fields of a row's document. -/
def layout : Layout :=
  ⟨"JobRow", ["id", "kind", "payload", "run_at", "status", "attempts", "max_attempts",
    "last_error", "created_at", "updated_at"]⟩

/-- The row that a document writes. -/
def decode : Decoder JobRow := fun json => do
  let record <- Record.open? layout json
  let id := record.slot "id" Decode.uuid
  let kind := record.slot "kind" Decode.string
  let payload := record.slot "payload" Decode.any
  let runAt := record.slot "run_at" Decode.instant
  let status := record.slot "status" Decode.string
  let attempts := record.slot "attempts" Decode.int32
  let maxAttempts := record.slot "max_attempts" Decode.int32
  let lastError := record.slot "last_error" (Decode.optional Decode.string)
  let createdAt := record.slot "created_at" Decode.instant
  let updatedAt := record.slot "updated_at" Decode.instant
  record.visit
    [id.problem, kind.problem, payload.problem, runAt.problem, status.problem,
      attempts.problem, maxAttempts.problem, lastError.problem, createdAt.problem,
      updatedAt.problem]
  let row : JobRow :=
    { id := <- id.required
      kind := <- kind.required
      payload := <- payload.required
      runAt := <- runAt.required
      status := <- status.required
      attempts := <- attempts.required
      maxAttempts := <- maxAttempts.required
      lastError := <- lastError.orNone
      createdAt := <- createdAt.required
      updatedAt := <- updatedAt.required }
  record.close
  return row

/-- The status of a row. -/
def status? (row : JobRow) : Except RowError JobStatus :=
  match JobStatus.ofText? row.status with
  | some status => .ok status
  | none => .error (.unknownStatus row.status)

/-- A count of a row as one that is never below zero. -/
def count (row : JobRow) (value : Int32) (field : String) : Except RowError UInt32 :=
  if value < 0 then .error (.negativeCount row.id field)
  else .ok (UInt32.ofNat value.toInt.toNat)

/-- The job that a row keeps. -/
def toJob (row : JobRow) : Except RowError Job := do
  let attempts <- row.count row.attempts "attempts"
  let maxAttempts <- row.count row.maxAttempts "max_attempts"
  .ok ⟨row.id, row.kind, row.payload, row.runAt, attempts, maxAttempts⟩

end JobRow

end Outreach
