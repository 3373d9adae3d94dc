import Outreach.Action

/-!
# Outlines of trees

A tree in few words: every action with its id, kind and name, its options if it has any, and its
children. The links to parents follow from the outline, and the project is the first unless another
is named.
-/

namespace Outreach.Action

/-- The tree that an outline of less than a given height describes, all of it changed at one
instant. -/
def ofOutlineWithin (modifiedAt : Instant) : Nat -> Decoder Action
  | 0 => fun json => Decode.refuse json "an outline"
  | height + 1 => fun json => do
    let part (name : String) : Json := (json.member? name).getD .null
    let id <- Decode.int64 (part "id")
    let projectId := (<- Decode.optional Decode.int64 (part "project")).getD 1
    let kind <- ActionKind.decode (part "type")
    let name <- Decode.string (part "name")
    let action := Action.new id projectId kind name modifiedAt
    let action := ((json.member? "options").map action.withOptions).getD action
    match json.member? "children" with
    | none => return action
    | some children =>
      return action.withChildren
        (<- Decode.list (ofOutlineWithin modifiedAt height) children)

/-- The tree that an outline describes. -/
def ofOutline (modifiedAt : Instant) : Decoder Action := fun json =>
  ofOutlineWithin modifiedAt json.height json

end Outreach.Action
