import Outreach.Configuration

/-!
# Shown configurations

A configuration as a document: the kind of its actions and what its options came to.
-/

namespace Outreach

/-- The document that shows a clause: its code and its operand. -/
def Clause.shown (clause : Clause) : Json :=
  .array [.string clause.code.name, .string clause.operand]

/-- What a configuration shows besides its kind. -/
def Configuration.members : Configuration -> List (String × Json)
  | .sequence | .control | .register | .unregister => []
  | .condition clauses => [("conditions", .ofList Clause.shown clauses)]
  | .authenticate lifetime =>
    [("lifetimeSeconds", .ofOption (fun seconds => .ofNat seconds.toNat) lifetime)]
  | .setTags included excluded =>
    [("include", .ofList .ofInt64 included), ("exclude", .ofList .ofInt64 excluded)]
  | .sendMail template => [("templateId", .ofInt64 template)]
  | .redirect url => [("url", .string url)]
  | .schedule timing =>
    [("startDate", .ofOption (fun start => .string start.text) timing.startDate),
      ("offsetSeconds", .integer timing.offset.wholeSeconds)]
  | .log anonymous name => [("anonymous", .bool anonymous), ("name", .ofOption .string name)]

/-- The document that shows a configuration. -/
def Configuration.toJson (configuration : Configuration) : Json :=
  .object (("type", .string configuration.kind.name) :: configuration.members)

end Outreach
