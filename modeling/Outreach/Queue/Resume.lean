import Outreach.Queue.Worker
import Outreach.Run.Services
import Outreach.Tree.Execution

/-!
# Resuming continuations

A continuation runs the present children of the action that deferred them, as a sequence, in the
context that was stored. What is gone by then, or has been disabled, or holds no children any more,
is passed over.
-/

namespace Outreach

namespace Executor

variable {σ : Type}

/-- The tree that a continuation runs: the action as a sequence. -/
def resumed (action : Action) : Action := { action with kind := .sequence }

/-- Carry out a continuation's tree in its context. -/
def runContinuation (executor : Executor σ) (project : Project) (action : Action)
    (snapshot : Snapshot) (shift : Shift σ) : Except RunFault Unit × Shift σ :=
  let run : Run σ := ⟨.ofSnapshot snapshot project, shift.world, shift.cancelled⟩
  let (outcome, run) := executor.execute (resumed action) run
  (outcome.map (fun _ => ()), ⟨run.world, run.cancelled⟩)

/-- Resume what an action deferred. -/
def resume (executor : Executor σ) (services : Services σ) (snapshot : Snapshot)
    (actionId : ActionId) (shift : Shift σ) : Except RunFault Unit × Shift σ :=
  match services.findProject snapshot.projectId shift.world with
  | (.error cause, world) => (.error (.service cause), { shift with world })
  | (.ok none, world) => (.ok (), { shift with world })
  | (.ok (some project), world) =>
    match services.findAction actionId world with
    | (.error cause, world) => (.error (.service cause), { shift with world })
    | (.ok none, world) => (.ok (), { shift with world })
    | (.ok (some action), world) =>
      if !action.enabled || action.children.isEmpty then (.ok (), { shift with world })
      else executor.runContinuation project action snapshot { shift with world }

/-- A fault of a run as one of the handling of a job. -/
def handlingFault (kind : String) : RunFault -> QueueError
  | .overflow => .overflow
  | other => .handler kind other.message

/-- Handle the job of a continuation. -/
def continuationHandler (executor : Executor σ) (services : Services σ) : Handler σ :=
  fun job shift =>
    match Continuation.decode job.payload with
    | .error cause => (.error (.payload cause), shift)
    | .ok continuation =>
      let snapshot := continuation.snapshot
      let (answer, shift) := executor.resume services snapshot snapshot.actionId shift
      (answer.mapError (handlingFault job.kind), shift)

end Executor

end Outreach
