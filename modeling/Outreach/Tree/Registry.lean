import Outreach.Run.Activity

/-!
# Registries

Which activity carries out the actions of a kind, if any does.
-/

namespace Outreach

/-- An activity for some of the kinds of actions. -/
structure Registry (σ : Type) where
  /-- The activity for a kind. -/
  activityFor : ActionKind -> Option (Activity σ)

namespace Registry

variable {σ : Type}

/-- The registry without activities. -/
def empty : Registry σ := ⟨fun _ => none⟩

/-- The registry with an activity for a kind, in place of the one before. -/
def register (registry : Registry σ) (kind : ActionKind) (activity : Activity σ) : Registry σ :=
  ⟨fun other => if other = kind then some activity else registry.activityFor other⟩

/-- The kinds that have an activity. -/
def kinds (registry : Registry σ) : List ActionKind :=
  ActionKind.all.filter (fun kind => (registry.activityFor kind).isSome)

/-- The number of kinds that have an activity. -/
def size (registry : Registry σ) : Nat := registry.kinds.length

/-- Whether no kind has an activity. -/
def isEmpty (registry : Registry σ) : Bool := registry.kinds.isEmpty

end Registry

end Outreach
