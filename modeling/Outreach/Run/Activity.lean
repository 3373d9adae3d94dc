import Outreach.Run.Context
import Outreach.Run.Outcome
import Outreach.ServiceError

/-!
# Activities

An activity carries out actions of one kind. It works on the state of a run: the context, the
surroundings, and whether the run has been cancelled. A *step* is an activity that looks at the
cancellation once, before it starts; it is written as a function that knows nothing of it.
-/

namespace Outreach

/-- Why an activity has no outcome. -/
inductive StepFault where
  /-- The run has been cancelled; nothing was done. -/
  | cancelled
  /-- A service does not work. -/
  | service (cause : ServiceError)
  /-- An instant, a span or an id out of range. Nothing goes on after that. -/
  | overflow
deriving DecidableEq

/-- The state of a run over surroundings of the type `σ`. -/
structure Run (σ : Type) where
  context : Context
  world : σ
  /-- Whether the run has been cancelled. -/
  cancelled : Bool

/-- What carries out actions of one kind. -/
abbrev Activity (σ : Type) := Run σ -> Except StepFault Outcome × Run σ

/-- What a step leaves. -/
structure StepResult (σ : Type) where
  outcome : Except StepFault Outcome
  context : Context
  world : σ
  /-- Whether the run was cancelled during the step. -/
  cancels : Bool

/-- An activity that is not concerned with the cancellation of its run. -/
abbrev Step (σ : Type) := Context -> σ -> StepResult σ

/-- The activity of a step: nothing is done when the run has been cancelled before. -/
def Step.guarded {σ : Type} (step : Step σ) : Activity σ := fun run =>
  if run.cancelled then (.error .cancelled, run)
  else
    let result := step run.context run.world
    (result.outcome, ⟨result.context, result.world, result.cancels⟩)

namespace StepResult

variable {σ : Type}

/-- A step with an outcome. -/
def finish (outcome : Outcome) (context : Context) (world : σ) : StepResult σ :=
  ⟨.ok outcome, context, world, false⟩

/-- A step without an outcome. -/
def abort (fault : StepFault) (context : Context) (world : σ) : StepResult σ :=
  ⟨.error fault, context, world, false⟩

/-- A step whose request was refused. A refusal of the request itself fails the step; a service
that does not work leaves it without an outcome. -/
def refused (cause : ServiceError) (context : Context) (world : σ) : StepResult σ :=
  match cause with
  | .backend _ => abort (.service cause) context world
  | other => finish (.failedWith other.message) context world

/-- A step that ends with the answer to a request, if there is one. -/
def ofReply {α : Type} (reply : Reply σ α) (context : Context)
    (next : α -> σ -> StepResult σ) : StepResult σ :=
  match reply with
  | (.ok answer, world) => next answer world
  | (.error cause, world) => refused cause context world

end StepResult

/-- A step that goes on with the configuration of its action; options that are none fail it. -/
def Context.configured {σ : Type} (context : Context) (world : σ)
    (next : Configuration -> StepResult σ) : StepResult σ :=
  match context.currentAction.configuration with
  | .ok configuration => next configuration
  | .error cause => .finish (.failedWith cause.message) context world

end Outreach
