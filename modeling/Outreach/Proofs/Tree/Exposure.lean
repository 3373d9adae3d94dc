import Outreach.Proofs.Tree.Arrivals
import Outreach.Steps.Registry

/-!
# Runs that others may cancel

A run goes on while others go about their business, and they may cancel it at any moment. An activity
finds that out if they did so before it looks, the executor before it goes on to the next action.
Whatever the moment, the visit of an action takes the step of its kind, whole, or no step at all
(`visit_exposed`).
-/

namespace Outreach

variable {σ : Type}

/-- The activity of a step in a run that others may cancel: by the time the activity looks they have
done so if `early` says so, and by the time it is done if `late` does. -/
def Step.exposed (step : Step σ) (early late : Run σ -> Bool) : Activity σ := fun run =>
  let ended := step.guarded { run with cancelled := early run || run.cancelled }
  (ended.1, { ended.2 with cancelled := late ended.2 || ended.2.cancelled })

namespace Executor

/-- The executor with the steps of all kinds, for runs that others may cancel. -/
def exposed (services : Services σ) (early late : Run σ -> Bool) (maxDepth : Nat) : Executor σ :=
  ⟨⟨fun kind => some ((Steps.forKind services kind).exposed early late)⟩, maxDepth⟩

variable {services : Services σ} {early late : Run σ -> Bool} {maxDepth : Nat}

/-- Where nobody cancels runs they are those of the standard activities. -/
theorem exposed_never :
    exposed services (fun _ => false) (fun _ => false) maxDepth = ⟨.standard services, maxDepth⟩ :=
  rfl

/-- The step that the visit of an action takes. -/
def stepAt (services : Services σ) (action : Action) (run : Run σ) : StepResult σ :=
  Steps.forKind services action.kind (entering run action).context run.world

/-- The visit of an action takes its step, unless the action is kept from it or the run has been
cancelled. -/
theorem visit_exposed (action : Action) (depth : Nat) (run : Run σ) :
    let visited := (exposed services early late maxDepth).visit action depth run
    let taken := stepAt services action run
    let after : Run σ := ⟨taken.context, taken.world, taken.cancels⟩
    (∃ outcome, visited = (.ok outcome, run) ∧ outcome.status = .failed ∧ outcome.flow = .stop) ∨
      (early (entering run action) || run.cancelled) = true ∧
        visited = (.error .cancelled, { entering run action with cancelled := true }) ∨
      action.enabled = true ∧
        visited = (absorb taken.outcome, { after with cancelled := late after || after.cancelled }) := by
  intro visited taken after
  cases barred : (exposed services early late maxDepth).barred action depth with
  | error outcome =>
    refine .inl ⟨outcome, ?_, barred_failed barred⟩
    simp only [visited, visit, barred]
  | ok activity =>
    obtain ⟨enabled, -, isStep⟩ := barred_eq_ok_iff.mp barred
    cases isStep
    right
    simp only [visited, visit_of_barred barred, Step.exposed]
    cases cancelled : early (entering run action) || run.cancelled with
    | true =>
      left
      have stopped : (early (entering run action) || (entering run action).cancelled) = true :=
        cancelled
      rw [stopped, Step.guarded_of_cancelled _ rfl, Bool.or_true]
      exact ⟨rfl, rfl⟩
    | false =>
      right
      have working : (early (entering run action) || (entering run action).cancelled) = false :=
        cancelled
      rw [working, Step.guarded_of_working _ rfl]
      exact ⟨enabled, rfl⟩

end Executor

end Outreach
