import Outreach.Rehearsal.Basic
import Outreach.Tree.Registry

/-!
# Scripted activities

In a rehearsal an activity may follow a script instead of doing its work. Whatever carries out an
action, the visit can be noted, and the run can be cancelled right before it.
-/

namespace Outreach

namespace ServiceError

/-- The refusal that a document describes. What it does not say is left empty. -/
def decode : Decoder ServiceError := fun json => do
  let part (name : String) : Json := (json.member? name).getD .null
  let text (name : String) : Except DecodeError String :=
    return (<- Decode.optional Decode.string (part name)).getD ""
  match part "kind" with
  | .string "NotFound" => return .notFound (<- text "entity") (<- text "id")
  | .string "Validation" =>
    let reasons <- Decode.optional (Decode.list Decode.string) (part "messages")
    return .validation (reasons.getD [])
  | .string "Backend" => return .backend (<- text "message")
  | other => Decode.refuse other "a kind of refusal"

end ServiceError

/-- What a scripted activity does. -/
inductive Cue where
  | succeed
  | fail
  | forbid
  | redirect (url : String)
  | suspend
  /-- A service does not work. -/
  | trouble (cause : ServiceError)
  /-- The run is cancelled, and the activity succeeds. -/
  | cancel

/-- The cue that a document describes. -/
def Cue.decode : Decoder Cue
  | .object [("Redirect", url)] => (Decode.string url).map .redirect
  | .object [("Error", cause)] => (ServiceError.decode cause).map .trouble
  | other =>
    Decode.variant
      [("Succeed", .succeed), ("Fail", .fail), ("Forbid", .forbid), ("Suspend", .suspend),
        ("CancelRun", .cancel)]
      other

/-- What a scripted activity does for which action. -/
structure Script where
  usual : Cue
  /-- What it does for single actions. -/
  special : Keyed ActionId Cue

namespace Script

/-- The script that a document describes. Without a usual cue it succeeds. -/
def decode : Decoder Script := fun json => do
  let part (name : String) : Json := (json.member? name).getD .null
  let usual <- Decode.optional Cue.decode (part "default")
  let special <- Decode.optional (Decode.map Cue.decode) (part "on")
  let entries := (special.getD ∅).entries.filterMap (fun entry =>
    (Digits.toInt64? entry.1.toList).map (fun id => (id, entry.2)))
  return ⟨usual.getD .succeed, .ofList entries⟩

/-- What is done for an action. -/
def cueFor (script : Script) (id : ActionId) : Cue := (script.special.get? id).getD script.usual

/-- Note the call of a scripted activity. -/
def noteCall (action : CurrentAction) (rehearsal : Rehearsal) : Rehearsal :=
  { rehearsal with calls := rehearsal.calls ++ [(action.kind, action.id)] }

/-- The step that follows a script. -/
def step (script : Script) : Step Rehearsal := fun context rehearsal =>
  let rehearsal := noteCall context.currentAction rehearsal
  match script.cueFor context.currentAction.id with
  | .succeed => .finish .success context rehearsal
  | .fail => .finish .failed context rehearsal
  | .forbid => .finish .forbidden context rehearsal
  | .redirect url => .finish (.redirect url) context rehearsal
  | .suspend => .finish .suspended context rehearsal
  | .trouble cause => .abort (.service cause) context rehearsal
  | .cancel => ⟨.ok .success, context, rehearsal, true⟩

end Script

namespace Rehearsal

/-- The activity that notes what came of it. -/
def noted (activity : Activity Rehearsal) : Activity Rehearsal := fun run =>
  let actionId := run.context.currentAction.id
  let (outcome, run) := activity run
  (outcome,
    { run with world := { run.world with visits := run.world.visits ++ [⟨actionId, outcome⟩] } })

/-- The activity before which the run is cancelled for some actions. -/
def cancelledBefore (ids : List ActionId) (activity : Activity Rehearsal) : Activity Rehearsal :=
  fun run =>
    activity (if ids.contains run.context.currentAction.id then { run with cancelled := true }
      else run)

end Rehearsal

end Outreach
