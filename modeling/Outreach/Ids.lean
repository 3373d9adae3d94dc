/-!
# Ids

The ids of authored and stored records are signed 64-bit words. Users are known by a text.
-/

namespace Outreach

/-- The id of an action. -/
abbrev ActionId := Int64

/-- The id of a project. -/
abbrev ProjectId := Int64

/-- The id of a contact. -/
abbrev ContactId := Int64

/-- The id of a tag. -/
abbrev TagId := Int64

/-- The id of a mail template. -/
abbrev TemplateId := Int64

/-- The id of an event. -/
abbrev EventId := Int64

/-- The id of an event category. -/
abbrev CategoryId := Int64

/-- The id of an automation rule. -/
abbrev RuleId := Int64

/-- The name a user is known by. -/
abbrev UserId := String

end Outreach
