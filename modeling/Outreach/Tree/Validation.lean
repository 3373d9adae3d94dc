import Outreach.Configuration
import Outreach.Rules.Store

/-!
# Well-formed trees

What an authored tree has to satisfy before it is used: ids are unique, children name the action
that holds them as their parent, all actions belong to the project of the root, all options say a
configuration, and no action is too far below the root.
-/

namespace Outreach

/-- What is wrong with a tree. -/
inductive TreeFault where
  /-- Two actions have one id. -/
  | duplicateId (id : ActionId)
  /-- A child does not name the action that holds it as its parent. -/
  | brokenParentLink (id expected : ActionId) (found : Option ActionId)
  /-- An action belongs to another project than the root. -/
  | foreignProject (id : ActionId) (project expected : ProjectId)
  /-- The options of an action say no configuration. -/
  | invalidConfiguration (id : ActionId) (cause : ConfigurationError)
  /-- An action is too far below the root. -/
  | tooDeep (id : ActionId) (maxDepth : Nat)

/-- The wording of a fault. -/
def TreeFault.message : TreeFault -> String
  | .duplicateId id => "duplicate action id " ++ Digits.wordText id
  | .brokenParentLink id expected found =>
    "action " ++ Digits.wordText id ++ " has parent " ++ optionalIdText found ++ ", expected " ++
      Digits.wordText expected
  | .foreignProject id project expected =>
    "action " ++ Digits.wordText id ++ " belongs to project " ++ Digits.wordText project ++
      ", tree belongs to " ++ Digits.wordText expected
  | .invalidConfiguration id cause => "action " ++ Digits.wordText id ++ ": " ++ cause.message
  | .tooDeep id maxDepth =>
    "tree is deeper than " ++ Digits.natText maxDepth ++ " levels at action " ++
      Digits.wordText id

namespace Action

/-- What is wrong with an action of itself, given the ids seen before it. -/
def ownFault? (project : ProjectId) (maxDepth : Nat) (seen : List ActionId) (depth : Nat)
    (action : Action) : Option TreeFault :=
  if seen.contains action.id then some (.duplicateId action.id)
  else if maxDepth < depth then some (.tooDeep action.id maxDepth)
  else if action.projectId ≠ project then
    some (.foreignProject action.id action.projectId project)
  else
    match action.configuration with
    | .error cause => some (.invalidConfiguration action.id cause)
    | .ok _ => none

/-- The last child that does not name an action as its parent. -/
def brokenLink? (action : Action) : Option TreeFault :=
  (action.children.reverse.find? (fun child => child.parentId ≠ some action.id)).map
    (fun child => .brokenParentLink child.id action.id child.parentId)

/-- Check an action and everything below it. The links of all children of an action are checked
before any of the children; answered are the ids seen. -/
def check (project : ProjectId) (maxDepth : Nat) (seen : List ActionId) (depth : Nat) :
    Action -> Except TreeFault (List ActionId)
  | ⟨id, parentId, projectId, kind, enabled, modifiedAt, name, options, children⟩ =>
    let action : Action :=
      ⟨id, parentId, projectId, kind, enabled, modifiedAt, name, options, children⟩
    match action.ownFault? project maxDepth seen depth with
    | some fault => .error fault
    | none =>
      match action.brokenLink? with
      | some fault => .error fault
      | none => checks project maxDepth (id :: seen) (depth + 1) children
where
  /-- Check trees one after the other. -/
  checks (project : ProjectId) (maxDepth : Nat) (seen : List ActionId) (depth : Nat) :
      List Action -> Except TreeFault (List ActionId)
    | [] => .ok seen
    | action :: rest =>
      match check project maxDepth seen depth action with
      | .error fault => .error fault
      | .ok seen => checks project maxDepth seen depth rest

/-- Check a tree. Answered is the number of its actions. -/
def validate (root : Action) (maxDepth : Nat) : Except TreeFault Nat :=
  (check root.projectId maxDepth [] 0 root).map List.length

end Action

end Outreach
