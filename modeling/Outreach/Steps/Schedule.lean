import Outreach.Run.Activity
import Outreach.Run.Services

/-!
# Deferral

The actions below are handed over as a continuation that runs later. The step never counts as a
success; when the continuation was taken, its flow is `suspend`.
-/

namespace Outreach.Steps

variable {σ : Type}

/-- The continuation of the action that is being carried out. -/
def continuationOf (context : Context) : Continuation :=
  { snapshot := context.snapshot context.currentAction.id
    childIds := context.currentAction.childIds }

/-- Leave the actions below for later. -/
def schedule (services : Services σ) : Step σ := fun context world =>
  if !context.hasLiveContact then .finish .failed context world
  else
    context.configured world (fun configuration =>
      match configuration with
      | .schedule timing =>
        match timing.target? (services.now world) with
        | none => .finish (.failedWith "schedule target is out of range") context world
        | some runAt =>
          match services.schedule runAt (continuationOf context) world with
          | (.ok (), world) => .finish .suspended context world
          | (.error cause, world) => .finish (.failedWith cause.message) context world
      | _ => .finish .failed context world)

end Outreach.Steps
