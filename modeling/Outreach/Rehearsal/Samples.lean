import Outreach.Catalog

/-!
# Sample records

A project, a contact of it that has not been stored, and a template, to rehearse campaigns with.
-/

namespace Outreach.Sample

/-- A project with an owner and one member. -/
def project : Project :=
  { id := 1, name := "Spring launch", ownerId := some "owner-1", members := ["analyst-1"]
    baseUrl := none }

/-- The data of a lead. -/
def contact : Contact := { Contact.new 1 "lead@example.com" with name := some "Lead" }

/-- A mail that greets a contact. -/
def template (id : TemplateId) : MailTemplate :=
  { id, projectId := 1, subject := "Welcome", body := "Hello \x7bcontact.name\x7d" }

end Outreach.Sample
