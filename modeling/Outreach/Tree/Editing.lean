import Outreach.Action

/-!
# Editing trees

Replacing the first action with an id by another tree, and taking actions with an id out from
below another action. The first match counts, each action being looked at before its children.
-/

namespace Outreach.Action

/-- The tree with `new` in place of the first action that has its id; `none` if there is no
such action. -/
def replace? (new : Action) : Action -> Option Action
  | ⟨id, parentId, projectId, kind, enabled, modifiedAt, name, options, children⟩ =>
    if id = new.id then some new
    else
      (replaceIn? new children).map (fun children =>
        ⟨id, parentId, projectId, kind, enabled, modifiedAt, name, options, children⟩)
where
  /-- The trees with `new` in place of the first action that has its id. -/
  replaceIn? (new : Action) : List Action -> Option (List Action)
    | [] => none
    | action :: rest =>
      match replace? new action with
      | some changed => some (changed :: rest)
      | none => (replaceIn? new rest).map (action :: ·)

/-- The tree without the children with an id of the first action that has such children; `none`
if no action has. -/
def removeBelow? (id : ActionId) : Action -> Option Action
  | ⟨own, parentId, projectId, kind, enabled, modifiedAt, name, options, children⟩ =>
    let withChildren (children : List Action) : Action :=
      ⟨own, parentId, projectId, kind, enabled, modifiedAt, name, options, children⟩
    if children.any (fun child => child.id = id) then
      some (withChildren (children.filter (fun child => child.id ≠ id)))
    else (removeIn? id children).map withChildren
where
  /-- The trees without the children with an id of the first action that has such children. -/
  removeIn? (id : ActionId) : List Action -> Option (List Action)
    | [] => none
    | action :: rest =>
      match removeBelow? id action with
      | some changed => some (changed :: rest)
      | none => (removeIn? id rest).map (action :: ·)

end Outreach.Action
