import Outreach.Decode.Record

/-!
# Outcomes of steps

What a step of a run came to: a status for whoever started the run, and what becomes of the
actions below the one that was carried out.
-/

namespace Outreach

/-- How a step went. -/
inductive Status where
  | success
  | failed
  | forbidden
deriving DecidableEq, Inhabited

namespace Status

/-- The name of a status in documents. -/
def name : Status -> String
  | .success => "Success"
  | .failed => "Failed"
  | .forbidden => "Forbidden"

/-- The status that a document names. -/
def decode : Decoder Status :=
  Decode.variant ([success, failed, forbidden].map (fun status => (status.name, status)))

end Status

/-- What becomes of the actions below. -/
inductive Flow where
  /-- They follow. -/
  | proceed
  /-- They are passed over. -/
  | stop
  /-- They are passed over now and follow later. -/
  | suspend
deriving DecidableEq, Inhabited

namespace Flow

/-- The name of a flow in documents. -/
def name : Flow -> String
  | .proceed => "Continue"
  | .stop => "Stop"
  | .suspend => "Suspend"

/-- The flow that a document names. -/
def decode : Decoder Flow :=
  Decode.variant ([proceed, stop, suspend].map (fun flow => (flow.name, flow)))

end Flow

/-- What a step came to. -/
structure Outcome where
  status : Status
  /-- Where the visitor is sent. -/
  returnUrl : Option String
  /-- What there is to say about the step. -/
  detail : Option String
  flow : Flow
deriving DecidableEq, Inhabited

namespace Outcome

/-- The step went well, and the actions below follow. -/
def success : Outcome :=
  { status := .success, returnUrl := none, detail := none, flow := .proceed }

/-- The step went well and sends the visitor to an address. -/
def redirect (url : String) : Outcome := { success with returnUrl := some url }

/-- The step failed. -/
def failed : Outcome := { status := .failed, returnUrl := none, detail := none, flow := .stop }

/-- The step failed, and there is something to say about it. -/
def failedWith (detail : String) : Outcome := { failed with detail := some detail }

/-- The step is not allowed. -/
def forbidden : Outcome :=
  { status := .forbidden, returnUrl := none, detail := none, flow := .stop }

/-- The actions below are left for later; for now the step counts as failed. -/
def suspended : Outcome := { failed with flow := .suspend }

/-- Whether the step went well. -/
def isSuccess (outcome : Outcome) : Bool := outcome.status = .success

/-- Whether the actions below follow. -/
def descends (outcome : Outcome) : Bool := outcome.flow = .proceed

/-- The document of an outcome. -/
def toJson (outcome : Outcome) : Json :=
  .object
    [("status", .string outcome.status.name),
      ("returnUrl", .ofOption .string outcome.returnUrl),
      ("detail", .ofOption .string outcome.detail),
      ("flow", .string outcome.flow.name)]

/-- The fields of an outcome's document. -/
def layout : Layout := ⟨"ActivityResult", ["status", "returnUrl", "detail", "flow"]⟩

/-- The outcome that a document writes. -/
def decode : Decoder Outcome := fun json => do
  let record <- Record.open? layout json
  let status := record.slot "status" Status.decode
  let returnUrl := record.slot "returnUrl" (Decode.optional Decode.string)
  let detail := record.slot "detail" (Decode.optional Decode.string)
  let flow := record.slot "flow" Flow.decode
  record.visit [status.problem, returnUrl.problem, detail.problem, flow.problem]
  let outcome : Outcome :=
    { status := <- status.required
      returnUrl := <- returnUrl.orNone
      detail := <- detail.orNone
      flow := <- flow.required }
  record.close
  return outcome

end Outcome

end Outreach
