import Outreach.Run.Activity
import Outreach.Run.Services
import Outreach.Text.Blank
import Outreach.Text.LowerCase
import Outreach.Time.Reader

/-!
# Conditions

A condition action succeeds when all its clauses hold. The clauses are looked at in order, and
the first that does not hold or has an unreadable operand ends the evaluation. Clauses on tags are
only collected; one request answers all of them at the end.
-/

namespace Outreach.Steps

variable {σ : Type}

/-- What came out of a list of clauses. -/
structure Verdict where
  passed : Bool
  /-- How many clauses were looked at. -/
  evaluated : Nat
  /-- Whether the tags of the contact were asked for. -/
  tagQueryIssued : Bool
deriving DecidableEq, Inhabited

/-- The truth value that an operand writes. -/
def truthValue? (operand : String) : Option Bool :=
  let text := Text.asciiLowerCase (Text.trimmed operand)
  if text = "true" || text = "1" then some true
  else if text = "false" || text = "0" then some false
  else none

/-- The tag that an operand names. -/
def tagId? (operand : String) : Option TagId := Digits.toInt64? (Text.trim operand.toList)

/-- The tags that clauses ask for. -/
structure TagDemand where
  included : IdSet
  excluded : IdSet
deriving Inhabited

namespace TagDemand

/-- No tags are asked for. -/
def none : TagDemand := ⟨∅, ∅⟩

/-- Whether no tags are asked for. -/
def isEmpty (demand : TagDemand) : Bool := demand.included.isEmpty && demand.excluded.isEmpty

end TagDemand

/-- Whether a clause holds as far as it can be told without the tags of the contact, and the tags
asked for so far. `none` if its operand is unreadable. -/
def judge? (context : Context) (now : Instant) (demand : TagDemand) (clause : Clause) :
    Option (Bool × TagDemand) :=
  match clause.code with
  | .dateGreaterThanOrEqualTo =>
    (Time.ofOperand? clause.operand).map (fun date => (date <= now, demand))
  | .dateLessThanOrEqualTo =>
    (Time.ofOperand? clause.operand).map (fun date => (now <= date, demand))
  | .authenticated =>
    (truthValue? clause.operand).map (fun value =>
      (context.isAuthenticatedAt now == value, demand))
  | .contactExists =>
    (truthValue? clause.operand).map (fun value => (context.hasLiveContact == value, demand))
  | .contactWithTag =>
    (tagId? clause.operand).map (fun id =>
      (true, { demand with included := demand.included.insert id }))
  | .contactWithoutTag =>
    (tagId? clause.operand).map (fun id =>
      (true, { demand with excluded := demand.excluded.insert id }))

/-- Look at clauses in order. Answered are how many were looked at, and the tags asked for if
none failed. -/
def survey (context : Context) (now : Instant) (evaluated : Nat) (demand : TagDemand) :
    List Clause -> Nat × Option TagDemand
  | [] => (evaluated, some demand)
  | clause :: rest =>
    match judge? context now demand clause with
    | some (true, demand) => survey context now (evaluated + 1) demand rest
    | _ => (evaluated + 1, none)

/-- Evaluate a list of clauses. -/
def evaluate (services : Services σ) (context : Context) (clauses : List Clause) (world : σ) :
    Reply σ Verdict :=
  match survey context (services.now world) 0 .none clauses with
  | (evaluated, none) => (.ok ⟨false, evaluated, false⟩, world)
  | (evaluated, some demand) =>
    if demand.isEmpty then (.ok ⟨true, evaluated, false⟩, world)
    else
      match context.liveContactId with
      | none => (.ok ⟨false, evaluated, false⟩, world)
      | some id =>
        match services.hasTags id demand.included demand.excluded world with
        | (.ok passed, world) => (.ok ⟨passed, evaluated, true⟩, world)
        | (.error cause, world) => (.error cause, world)

/-- Let the actions below follow when all clauses hold. -/
def condition (services : Services σ) : Step σ := fun context world =>
  context.configured world (fun configuration =>
    match configuration with
    | .condition clauses =>
      .ofReply (evaluate services context clauses world) context
        (fun verdict world =>
          .finish (if verdict.passed then .success else .failed) context world)
    | _ => .finish .failed context world)

end Outreach.Steps
