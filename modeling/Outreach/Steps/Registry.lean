import Outreach.Steps.Authenticate
import Outreach.Steps.Condition
import Outreach.Steps.Contact
import Outreach.Steps.Container
import Outreach.Steps.Log
import Outreach.Steps.Redirect
import Outreach.Steps.Schedule
import Outreach.Steps.SendMail
import Outreach.Tree.Registry

/-!
# The steps of all kinds

Every kind of action has one step of its own.
-/

namespace Outreach

variable {σ : Type}

/-- The step that carries out actions of a kind. -/
def Steps.forKind (services : Services σ) : ActionKind -> Step σ
  | .sequence => container
  | .control => container
  | .condition => condition services
  | .authenticate => authenticate services
  | .register => register services
  | .unregister => unregister services
  | .setTags => setTags services
  | .sendMail => sendMail services
  | .redirect => redirect services
  | .schedule => schedule services
  | .log => log services

/-- The registry with the step of every kind. -/
def Registry.standard (services : Services σ) : Registry σ :=
  ⟨fun kind => some (Steps.forKind services kind).guarded⟩

end Outreach
