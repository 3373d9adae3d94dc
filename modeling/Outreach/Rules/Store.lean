import Outreach.Rules.Matching
import Outreach.ServiceError

/-!
# Stored rules

The rules of all owners, and how an event is judged by those of its own owner.
-/

namespace Outreach

/-- The rules of all owners, in the order in which they were added. -/
structure RuleStore where
  rules : List Rule
deriving DecidableEq, Inhabited

namespace RuleStore

/-- The store with one more rule. -/
def add (store : RuleStore) (rule : Rule) : RuleStore := ⟨store.rules ++ [rule]⟩

/-- The rules of an owner. -/
def rulesFor (store : RuleStore) (owner : UserId) : List Rule :=
  store.rules.filter (fun rule => rule.ownerId = owner)

end RuleStore

/-- Why an event cannot be judged. -/
inductive JudgeError where
  /-- The event belongs to nobody, so it has no rules. -/
  | missingOwner (event : Option EventId)
  /-- The rules cannot be had. -/
  | store (cause : ServiceError)
deriving DecidableEq

/-- The wording of an optional id. -/
def optionalIdText : Option Int64 -> String
  | some id => "Some(" ++ Digits.wordText id ++ ")"
  | none => "None"

/-- The wording of a cause. -/
def JudgeError.message : JudgeError -> String
  | .missingOwner event =>
    "event " ++ optionalIdText event ++ " has no owner; rules cannot be evaluated"
  | .store cause => "rule store: " ++ cause.message

/-- Apply the rules of an event's owner to it. -/
def RuleStore.judge (store : RuleStore) (event : Event) :
    Except JudgeError (RuleOutcome × Event) :=
  match event.ownerId with
  | none => .error (.missingOwner event.id)
  | some owner => .ok (Rule.applyAll (store.rulesFor owner) event)

end Outreach
