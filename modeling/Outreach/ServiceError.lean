import Outreach.Ids
import Outreach.Text.Digits

/-!
# Why a service refuses

The services around a run store records, deliver mail and keep jobs. Each request is answered or
refused with one of three causes.
-/

namespace Outreach

/-- Why a service refuses a request. -/
inductive ServiceError where
  /-- There is no record of that kind with that id. -/
  | notFound (entity id : String)
  /-- The record is not acceptable, for the given reasons. -/
  | validation (reasons : List String)
  /-- The service does not work. -/
  | backend (detail : String)
deriving DecidableEq, Inhabited

/-- The wording of a cause. -/
def ServiceError.message : ServiceError -> String
  | .notFound entity id => entity ++ " " ++ id ++ " not found"
  | .validation reasons => "validation failed: " ++ String.intercalate "; " reasons
  | .backend detail => "collaborator backend error: " ++ detail

/-- The answer to a request and the state of the services after it. -/
abbrev Reply (σ α : Type) := Except ServiceError α × σ

end Outreach
