import Outreach.Event

/-!
# Automation rules

A project owner authors rules for the events of the owner's projects. A rule has conditions on
an event, all of which must hold, and actions that mark the event.
-/

namespace Outreach

/-- What a condition of a rule looks at. -/
inductive RuleCode where
  | startDateGreaterThan
  | startDateLessThan
  | clientIdContains
  | correlationUriContains
  | referrerUrlContains
  | projectIdEquals
  | contactStateEquals
  | contactMailContains
deriving DecidableEq, Inhabited

namespace RuleCode

/-- Every code, in the order in which they are listed. -/
def all : List RuleCode :=
  [.startDateGreaterThan, .startDateLessThan, .clientIdContains, .correlationUriContains,
    .referrerUrlContains, .projectIdEquals, .contactStateEquals, .contactMailContains]

/-- The name of a code in documents. -/
def name : RuleCode -> String
  | .startDateGreaterThan => "StartDateGreaterThan"
  | .startDateLessThan => "StartDateLessThan"
  | .clientIdContains => "ClientIdContains"
  | .correlationUriContains => "CorrelationUriContains"
  | .referrerUrlContains => "ReferrerUrlContains"
  | .projectIdEquals => "ProjectIdEquals"
  | .contactStateEquals => "ContactStateEquals"
  | .contactMailContains => "ContactMailContains"

/-- The code that a document names. -/
def decode : Decoder RuleCode := Decode.variant (all.map (fun code => (code.name, code)))

end RuleCode

/-- A condition on an event. Its operand is read according to its code. -/
structure RuleCondition where
  code : RuleCode
  operand : String
deriving DecidableEq, Inhabited

namespace RuleCondition

/-- The document of a condition. -/
def toJson (condition : RuleCondition) : Json :=
  .object [("code", .string condition.code.name), ("operand", .string condition.operand)]

/-- The fields of a condition's document. -/
def layout : Layout := ⟨"RuleCondition", ["code", "operand"]⟩

/-- The condition that a document writes. -/
def decode : Decoder RuleCondition := fun json => do
  let record <- Record.open? layout json
  let code := record.slot "code" RuleCode.decode
  let operand := record.slot "operand" Decode.string
  record.visit [code.problem, operand.problem]
  let condition : RuleCondition :=
    { code := <- code.required
      operand := <- operand.required }
  record.close
  return condition

end RuleCondition

/-- What a rule does to an event. -/
inductive RuleAction where
  /-- Mark the event as deleted. -/
  | remove
  /-- Put the event into a category. -/
  | categorize (category : CategoryId)
deriving DecidableEq, Inhabited

namespace RuleAction

/-- The document of an action: its name as the code, and its category as the operand. -/
def toJson : RuleAction -> Json
  | .remove => .object [("code", .string "Remove")]
  | .categorize category =>
    .object [("code", .string "Categorize"), ("operand", .ofInt64 category)]

/-- The two kinds of actions. -/
inductive Tag where
  | remove
  | categorize
deriving DecidableEq

/-- The kind that a document names. -/
def Tag.decode : Decoder Tag :=
  Decode.variant [("Remove", .remove), ("Categorize", .categorize)]

/-- The wording of an action. -/
def description : String := "adjacently tagged enum RuleAction"

/-- The action of a kind with an operand. -/
def ofOperand (tag : Tag) (operand : Json) : Except DecodeError RuleAction :=
  match tag with
  | .remove =>
    match operand with
    | .null => .ok .remove
    | other => Decode.refuse other "unit variant RuleAction::Remove"
  | .categorize => (Decode.int64 operand).map .categorize

/-- The members of an action's document. -/
def layout : Layout := ⟨"RuleAction", ["code", "operand"]⟩

/-- The action that the members of an object write. A removal may leave its operand out. -/
def ofMembers (members : List (String × Json)) : Except DecodeError RuleAction :=
  match members.lookup "code" with
  | none => .error (.missingField "code")
  | some code => do
    let tag <- Tag.decode code
    match members.lookup "operand" with
    | some operand => ofOperand tag operand
    | none =>
      match tag with
      | .remove => .ok .remove
      | .categorize => .error (.missingField "operand")

/-- The action that a document writes: an object with a code and an operand, or an array of the
two. -/
def decode : Decoder RuleAction
  | .object members =>
    match Record.repeated? layout members with
    | some name => .error (.duplicateField name)
    | none => ofMembers members
  | .array [] => .error (.invalidLength 0 description)
  | .array [code] => do
    let _ <- Tag.decode code
    .error (.invalidLength 1 description)
  | .array (code :: operand :: rest) => do
    let tag <- Tag.decode code
    let action <- ofOperand tag operand
    if rest.isEmpty then .ok action
    else .error (.invalidLength (rest.length + 2) "fewer elements in array")
  | other => Decode.refuse other description

end RuleAction

/-- An automation rule. -/
structure Rule where
  id : RuleId
  /-- The user whose events the rule is for. -/
  ownerId : UserId
  name : String
  /-- A disabled rule does nothing. -/
  enabled : Bool
  conditions : List RuleCondition
  actions : List RuleAction
deriving DecidableEq, Inhabited

namespace Rule

/-- An enabled rule without conditions and actions. -/
def new (id : RuleId) (ownerId : UserId) (name : String) : Rule :=
  { id, ownerId, name, enabled := true, conditions := [], actions := [] }

/-- The rule with one more condition. -/
def when (rule : Rule) (code : RuleCode) (operand : String) : Rule :=
  { rule with conditions := rule.conditions ++ [⟨code, operand⟩] }

/-- The rule with one more action. -/
def andThen (rule : Rule) (action : RuleAction) : Rule :=
  { rule with actions := rule.actions ++ [action] }

/-- The document of a rule. -/
def toJson (rule : Rule) : Json :=
  .object
    [("id", .ofInt64 rule.id),
      ("ownerId", .string rule.ownerId),
      ("name", .string rule.name),
      ("enabled", .bool rule.enabled),
      ("conditions", .ofList RuleCondition.toJson rule.conditions),
      ("actions", .ofList RuleAction.toJson rule.actions)]

/-- The fields of a rule's document. -/
def layout : Layout :=
  ⟨"AutomationRule", ["id", "ownerId", "name", "enabled", "conditions", "actions"]⟩

/-- The rule that a document writes. -/
def decode : Decoder Rule := fun json => do
  let record <- Record.open? layout json
  let id := record.slot "id" Decode.int64
  let ownerId := record.slot "ownerId" Decode.string
  let name := record.slot "name" Decode.string
  let enabled := record.slot "enabled" Decode.bool
  let conditions := record.slot "conditions" (Decode.list RuleCondition.decode)
  let actions := record.slot "actions" (Decode.list RuleAction.decode)
  record.visit
    [id.problem, ownerId.problem, name.problem, enabled.problem, conditions.problem,
      actions.problem]
  let rule : Rule :=
    { id := <- id.required
      ownerId := <- ownerId.required
      name := <- name.required
      enabled := <- enabled.withDefault true
      conditions := <- conditions.withDefault []
      actions := <- actions.withDefault [] }
  record.close
  return rule

end Rule

end Outreach
