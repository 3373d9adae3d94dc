import Outreach.Rules.Rule
import Outreach.Text.LowerCase
import Outreach.Time.Reader

/-!
# Rules and events

Whether a rule's conditions hold of an event, and what the rules of an owner do to it. An
operand that cannot be read makes its condition false.
-/

namespace Outreach

/-- Whether a field is there and holds a text as a part, letter case disregarded. -/
def RuleCondition.fieldContains (field : Option String) (part : String) : Bool :=
  match field with
  | some text => Text.containsCaseless text part
  | none => false

/-- Whether a condition holds of an event. -/
def RuleCondition.holdsOf (condition : RuleCondition) (event : Event) : Bool :=
  match condition.code with
  | .startDateGreaterThan =>
    match event.startDate, Time.ofOperand? condition.operand with
    | some start, some bound => bound < start
    | _, _ => false
  | .startDateLessThan =>
    match event.startDate, Time.ofOperand? condition.operand with
    | some start, some bound => start < bound
    | _, _ => false
  | .clientIdContains => fieldContains event.clientId condition.operand
  | .correlationUriContains => fieldContains event.correlationUri condition.operand
  | .referrerUrlContains => fieldContains event.referrerUrl condition.operand
  | .contactMailContains => fieldContains event.contactMail condition.operand
  | .projectIdEquals =>
    match Digits.toInt64? (Text.trim condition.operand.toList) with
    | some id => event.projectId = some id
    | none => false
  | .contactStateEquals =>
    match ContactState.ofText? condition.operand with
    | some state => event.contactState = state
    | none => false

/-- Whether every condition of a rule holds of an event. -/
def Rule.matches (rule : Rule) (event : Event) : Bool :=
  rule.conditions.all (fun condition => condition.holdsOf event)

/-- What an action makes of an event. A deleted event keeps its category. -/
def RuleAction.applyTo (action : RuleAction) (event : Event) : Event :=
  match action with
  | .remove => { event with deleted := true }
  | .categorize category =>
    if event.deleted then event else { event with categoryId := some category }

/-- What rules did to an event. -/
structure RuleOutcome where
  /-- The rules that matched, in the order in which they were applied. -/
  matched : List RuleId
  /-- Whether the event is deleted now. -/
  removed : Bool
  /-- The category of the event now. -/
  categoryId : Option CategoryId
deriving DecidableEq, Inhabited

/-- The document of what rules did. -/
def RuleOutcome.toJson (outcome : RuleOutcome) : Json :=
  .object
    [("matched", .ofList .ofInt64 outcome.matched),
      ("removed", .bool outcome.removed),
      ("category_id", .ofOption .ofInt64 outcome.categoryId)]

namespace Rule

/-- The rules in ascending order of their ids; rules with one id stay in their order. -/
def inOrder (rules : List Rule) : List Rule :=
  rules.mergeSort (fun left right => left.id <= right.id)

/-- Apply one rule to an event if it matches, and note its id then. -/
def applyNext (progress : List RuleId × Event) (rule : Rule) : List RuleId × Event :=
  if rule.matches progress.2 then
    (progress.1 ++ [rule.id],
      rule.actions.foldl (fun event action => action.applyTo event) progress.2)
  else progress

/-- Apply the enabled rules of a list to an event, in the order of their ids. -/
def applyAll (rules : List Rule) (event : Event) : RuleOutcome × Event :=
  let (matched, marked) := ((inOrder rules).filter Rule.enabled).foldl applyNext ([], event)
  (⟨matched, marked.deleted, marked.categoryId⟩, marked)

end Rule

end Outreach
