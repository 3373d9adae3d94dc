import Outreach.Run.Activity

/-!
# Containers

An action that only holds others always succeeds, so that what is below it follows.
-/

namespace Outreach.Steps

/-- Hold the actions below together. -/
def container {σ : Type} : Step σ := fun context world => .finish .success context world

end Outreach.Steps
