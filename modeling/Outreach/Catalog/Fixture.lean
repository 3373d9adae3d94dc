import Outreach.Catalog
import Outreach.Rules.Store

/-!
# Fixtures

The content of a catalog as a document.
-/

namespace Outreach

/-- The records that a catalog starts with. -/
structure Fixture where
  projects : List Project
  /-- Trees; the actions below their roots are found by their ids too. -/
  actions : List Action
  contacts : List Contact
  templates : List MailTemplate
deriving Inhabited

namespace Fixture

/-- The fields of a fixture's document. -/
def layout : Layout := ⟨"CatalogFixture", ["projects", "actions", "contacts", "templates"]⟩

/-- The fixture that a document writes. -/
def decode : Decoder Fixture := fun json => do
  let record <- Record.open? layout json
  let projects := record.slot "projects" (Decode.list Project.decode)
  let actions := record.slot "actions" (Decode.list Action.decode)
  let contacts := record.slot "contacts" (Decode.list Contact.decode)
  let templates := record.slot "templates" (Decode.list MailTemplate.decode)
  record.visit [projects.problem, actions.problem, contacts.problem, templates.problem]
  let fixture : Fixture :=
    { projects := <- projects.withDefault []
      actions := <- actions.withDefault []
      contacts := <- contacts.withDefault []
      templates := <- templates.withDefault [] }
  record.close
  return fixture

/-- The catalog with the records of a fixture, put in one after the other; `none` if there are no
ids left for its contacts. -/
def toCatalog? (fixture : Fixture) : Option Catalog := do
  let catalog := fixture.projects.foldl Catalog.addProject .empty
  let catalog := fixture.actions.foldl Catalog.putAction catalog
  let catalog <- fixture.contacts.foldlM
    (fun catalog contact => (catalog.addContact contact).map Prod.snd) catalog
  return fixture.templates.foldl Catalog.addTemplate catalog

end Fixture

/-- The content of a catalog together with rules. -/
structure RuledFixture where
  fixture : Fixture
  rules : List Rule
deriving Inhabited

namespace RuledFixture

/-- The fields of the document: those of a fixture, and the rules. -/
def layout : Layout := ⟨"Fixture", ["rules"]⟩

/-- The rules that a document writes beside a fixture. -/
def decodeRules : Decoder (List Rule) := fun json => do
  let record <- Record.open? layout json
  let rules := record.slot "rules" (Decode.list Rule.decode)
  record.visit [rules.problem]
  rules.withDefault []

/-- The fixture with rules that a document writes. It is always an object. -/
def decode : Decoder RuledFixture
  | .object members => do
    let rules <- decodeRules (.object members)
    let fixture <- Fixture.decode (.object members)
    return ⟨fixture, rules⟩
  | other => Decode.refuse other layout.description

end RuledFixture

end Outreach
