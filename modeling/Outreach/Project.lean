import Outreach.Decode.Record
import Outreach.Ids

/-!
# Projects

A project owns actions, contacts, templates and rules.
-/

namespace Outreach

/-- A project. -/
structure Project where
  id : ProjectId
  name : String
  /-- The user who owns the project and its rules. -/
  ownerId : Option UserId
  /-- The users who take part in it. -/
  members : List UserId
  /-- The address that relative redirects start from. -/
  baseUrl : Option String
deriving DecidableEq, Inhabited

namespace Project

/-- The users without repetitions, each at its first place. -/
def distinct (users : List UserId) : List UserId :=
  users.foldl (fun seen user => if seen.contains user then seen else seen ++ [user]) []

/-- The users who learn of the project's events: the owner first, then the members, each
once. -/
def recipients (project : Project) : List UserId :=
  distinct (project.ownerId.toList ++ project.members)

/-- The document of a project. -/
def toJson (project : Project) : Json :=
  .object
    [("id", .ofInt64 project.id),
      ("name", .string project.name),
      ("ownerId", .ofOption .string project.ownerId),
      ("members", .ofList .string project.members),
      ("baseUrl", .ofOption .string project.baseUrl)]

/-- The fields of a project's document. -/
def layout : Layout := ⟨"Project", ["id", "name", "ownerId", "members", "baseUrl"]⟩

/-- The project that a document writes. -/
def decode : Decoder Project := fun json => do
  let record <- Record.open? layout json
  let id := record.slot "id" Decode.int64
  let name := record.slot "name" Decode.string
  let ownerId := record.slot "ownerId" (Decode.optional Decode.string)
  let members := record.slot "members" (Decode.list Decode.string)
  let baseUrl := record.slot "baseUrl" (Decode.optional Decode.string)
  record.visit [id.problem, name.problem, ownerId.problem, members.problem, baseUrl.problem]
  let project : Project :=
    { id := <- id.required
      name := <- name.required
      ownerId := <- ownerId.orNone
      members := <- members.withDefault []
      baseUrl := <- baseUrl.orNone }
  record.close
  return project

end Project

end Outreach
