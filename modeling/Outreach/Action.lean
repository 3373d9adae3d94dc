import Outreach.Decode.Record
import Outreach.Ids
import Outreach.Time.Printer

/-!
# Actions

A campaign is authored as a tree of actions. Every action is of one kind, belongs to a project,
carries the options of its kind as an unread document, and has further actions as children.
-/

namespace Outreach

/-- The kinds of actions. -/
inductive ActionKind where
  | sequence
  /-- A container without an effect of its own. -/
  | control
  | condition
  | authenticate
  | register
  | unregister
  | setTags
  | sendMail
  | redirect
  | schedule
  | log
deriving DecidableEq, Inhabited

namespace ActionKind

/-- Every kind, in the order in which they are listed. -/
def all : List ActionKind :=
  [.sequence, .control, .condition, .authenticate, .register, .unregister, .setTags, .sendMail,
    .redirect, .schedule, .log]

/-- The name of a kind in documents and messages. -/
def name : ActionKind -> String
  | .sequence => "Sequence"
  | .control => "Control"
  | .condition => "Condition"
  | .authenticate => "Authenticate"
  | .register => "Register"
  | .unregister => "Unregister"
  | .setTags => "SetTags"
  | .sendMail => "SendMail"
  | .redirect => "Redirect"
  | .schedule => "Schedule"
  | .log => "Log"

/-- The kind that a document names. -/
def decode : Decoder ActionKind := Decode.variant (all.map (fun kind => (kind.name, kind)))

end ActionKind

/-- An action with the actions below it. -/
structure Action where
  /-- The id of the action. -/
  id : ActionId
  /-- The id of the action that holds this one as a child. -/
  parentId : Option ActionId
  /-- The project the action belongs to. -/
  projectId : ProjectId
  /-- What the action does. -/
  kind : ActionKind
  /-- A disabled action is passed over together with its children. -/
  enabled : Bool
  /-- When the action was last changed. -/
  modifiedAt : Instant
  /-- The name of the action. -/
  name : String
  /-- The options, read by the kind of the action only. -/
  options : Json
  /-- The actions that follow when this one lets the run go on. -/
  children : List Action
deriving Inhabited

namespace Action

/-- An enabled action without options and children. -/
def new (id : ActionId) (projectId : ProjectId) (kind : ActionKind) (name : String)
    (modifiedAt : Instant) : Action :=
  { id, parentId := none, projectId, kind, enabled := true, modifiedAt, name, options := .null
    children := [] }

/-- The action with other options. -/
def withOptions (action : Action) (options : Json) : Action := { action with options }

/-- The action with further children, which are given its id as their parent. -/
def withChildren (action : Action) (children : List Action) : Action :=
  { action with
    children := action.children ++
      children.map (fun child => { child with parentId := some action.id }) }

/-- The number of actions in a tree. -/
def size : Action -> Nat
  | ⟨_, _, _, _, _, _, _, _, children⟩ => sizes children + 1
where
  /-- The number of actions in a list of trees. -/
  sizes : List Action -> Nat
    | [] => 0
    | action :: rest => size action + sizes rest

/-- Every action of a tree, each before its children. -/
def preorder : Action -> List Action
  | ⟨id, parentId, projectId, kind, enabled, modifiedAt, name, options, children⟩ =>
    ⟨id, parentId, projectId, kind, enabled, modifiedAt, name, options, children⟩ ::
      preorders children
where
  /-- Every action of a list of trees, each before its children. -/
  preorders : List Action -> List Action
    | [] => []
    | action :: rest => preorder action ++ preorders rest

/-- The first action with an id, each looked at before its children. -/
def find? (action : Action) (id : ActionId) : Option Action :=
  action.preorder.find? (fun candidate => candidate.id = id)

/-- The document of an action. -/
def toJson : Action -> Json
  | ⟨id, parentId, projectId, kind, enabled, modifiedAt, name, options, children⟩ =>
    .object
      [("id", .ofInt64 id),
        ("parentId", .ofOption .ofInt64 parentId),
        ("projectId", .ofInt64 projectId),
        ("actionType", .string kind.name),
        ("enabled", .bool enabled),
        ("modifiedAt", .string modifiedAt.text),
        ("name", .string name),
        ("options", options),
        ("children", .array (toJsons children))]
where
  /-- The documents of a list of actions. -/
  toJsons : List Action -> List Json
    | [] => []
    | action :: rest => toJson action :: toJsons rest

/-- The fields of an action's document. -/
def layout : Layout :=
  ⟨"ActionNode", ["id", "parentId", "projectId", "actionType", "enabled", "modifiedAt", "name",
    "options", "children"]⟩

/-- The action that a document of less than a given height writes. -/
def decodeWithin : Nat -> Decoder Action
  | 0 => fun json => Decode.refuse json layout.description
  | height + 1 => fun json => do
    let record <- Record.open? layout json
    let id := record.slot "id" Decode.int64
    let parentId := record.slot "parentId" (Decode.optional Decode.int64)
    let projectId := record.slot "projectId" Decode.int64
    let kind := record.slot "actionType" ActionKind.decode
    let enabled := record.slot "enabled" Decode.bool
    let modifiedAt := record.slot "modifiedAt" Decode.instant
    let name := record.slot "name" Decode.string
    let options := record.slot "options" Decode.any
    let children := record.slot "children" (Decode.list (decodeWithin height))
    record.visit
      [id.problem, parentId.problem, projectId.problem, kind.problem, enabled.problem,
        modifiedAt.problem, name.problem, options.problem, children.problem]
    let action : Action :=
      { id := <- id.required
        parentId := <- parentId.orNone
        projectId := <- projectId.required
        kind := <- kind.required
        enabled := <- enabled.withDefault true
        modifiedAt := <- modifiedAt.required
        name := <- name.required
        options := <- options.withDefault .null
        children := <- children.withDefault [] }
    record.close
    return action

/-- The action that a document writes. -/
def decode : Decoder Action := fun json => decodeWithin json.height json

end Action

end Outreach
